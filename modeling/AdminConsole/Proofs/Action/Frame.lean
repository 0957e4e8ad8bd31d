import AdminConsole.Proofs.Action.Effect
import Mathlib.Data.List.Forall2

/-! # What an action leaves alone

Every kind of action has one section of the data to itself
(`ActionKind.place`).  An action that is performed changes nothing in any other
section (`Action.Effect.beside`), so what is said of one section needs a proof
for the few kinds only that have it as their place.
-/
namespace AdminConsole

/-- The section that actions of the kind are about. -/
def ActionKind.place : ActionKind → Section
  | banMember | unbanMember | verifyMember | editMember | deleteMember => .members
  | resolveReport | dismissReport | removeContent => .reports
  | refundPayment => .payments
  | pauseCampaign | resumeCampaign => .campaigns
  | assignRole => .team
  | updateSettings => .settings

/-- `d'` is `d` in every section but one. -/
structure Data.Beside (s : Section) (d d' : Data) : Prop where
  members : s ≠ .members → d'.members = d.members
  reports : s ≠ .reports → d'.reports = d.reports
  payments : s ≠ .payments → d'.payments = d.payments
  campaigns : s ≠ .campaigns → d'.campaigns = d.campaigns
  team : s ≠ .team → d'.team = d.team
  settings : s ≠ .settings → d'.settings = d.settings
  engagement : d'.engagement = d.engagement
  revenue : d'.revenue = d.revenue

namespace Listing

variable {α : Type} [Entity α] {l : Listing α} {target : Uuid} {d d' : Data}

/-- What a section is replaced by changes the other sections as little as the section itself. -/
def Keeps (l : Listing α) (s : Section) : Prop := ∀ xs d, Data.Beside s d (l.put xs d)

theorem keeps_members : members.Keeps .members := fun xs d => by
  constructor <;> intros <;> first | rfl | contradiction

theorem keeps_reports : reports.Keeps .reports := fun xs d => by
  constructor <;> intros <;> first | rfl | contradiction

theorem keeps_payments : payments.Keeps .payments := fun xs d => by
  constructor <;> intros <;> first | rfl | contradiction

theorem keeps_campaigns : campaigns.Keeps .campaigns := fun xs d => by
  constructor <;> intros <;> first | rfl | contradiction

theorem keeps_team : team.Keeps .team := fun xs d => by
  constructor <;> intros <;> first | rfl | contradiction

theorem Turned.beside {s : Section} (hl : l.Keeps s) {before : α → Prop} {after : α → α}
    {result : Affected} (h : l.Turned target before after d result d') : Data.Beside s d d' := by
  obtain ⟨a, -, ⟨pre, post, -, -, -, rfl⟩, -⟩ := h
  exact hl _ _

/-- The one thing became another, and the others stayed what they were. -/
theorem Edited.forall₂ {R : α → α → Prop} {a b : α} (h : l.Edited target a b d d')
    (hrefl : ∀ a, R a a) (hab : R a b) : List.Forall₂ R (l.items d) (l.items d') := by
  obtain ⟨pre, post, hitems, -, -, rfl⟩ := h
  have hsame : ∀ xs : List α, List.Forall₂ R xs xs :=
    fun xs => List.forall₂_same.mpr fun x _ => hrefl x
  rw [hitems, l.items_put]
  exact List.rel_append (hsame pre) (List.Forall₂.cons hab (hsame post))

/-- What holds of all things of a section still does when one is changed, if it does of that one. -/
theorem Turned.forall_mem {before P : α → Prop} {after : α → α} {result : Affected}
    (h : l.Turned target before after d result d') (hafter : ∀ a, before a → P a → P (after a))
    (hall : ∀ a ∈ l.items d, P a) : ∀ a ∈ l.items d', P a := by
  obtain ⟨a, ha, ⟨pre, post, hitems, -, -, rfl⟩, -⟩ := h
  rw [hitems, List.forall_mem_append, List.forall_mem_cons] at hall
  rw [l.items_put, List.forall_mem_append, List.forall_mem_cons]
  exact ⟨hall.1, hafter a ha hall.2.1, hall.2.2⟩

theorem Removed.forall_mem {P : α → Prop} {a : α} (h : l.Removed target a d d')
    (hall : ∀ a ∈ l.items d, P a) : ∀ a ∈ l.items d', P a := by
  obtain ⟨pre, post, hitems, -, -, rfl⟩ := h
  rw [hitems, List.forall_mem_append, List.forall_mem_cons] at hall
  rw [l.items_put, List.forall_mem_append]
  exact ⟨hall.1, hall.2.2⟩

theorem Removed.beside {s : Section} (hl : l.Keeps s) {a : α} (h : l.Removed target a d d') :
    Data.Beside s d d' := by
  obtain ⟨pre, post, -, -, -, rfl⟩ := h
  exact hl _ _

end Listing

/-- **An action that is performed changes nothing but its own section.** -/
theorem Action.Effect.beside {actor : Uuid} {now : Instant} {a : Action} {d d' : Data}
    {result : Affected} (h : a.Effect actor now d result d') :
    Data.Beside a.kind.place d d' := by
  cases a with
  | banMember id reason => exact Listing.Turned.beside Listing.keeps_members h
  | unbanMember id => exact Listing.Turned.beside Listing.keeps_members h
  | verifyMember id => exact Listing.Turned.beside Listing.keeps_members h
  | editMember id u => exact Listing.Turned.beside Listing.keeps_members h.2
  | deleteMember id =>
    obtain ⟨m, hm, -⟩ := h
    exact hm.beside Listing.keeps_members
  | resolveReport id note => exact Listing.Turned.beside Listing.keeps_reports h
  | dismissReport id note => exact Listing.Turned.beside Listing.keeps_reports h
  | removeContent id => exact Listing.Turned.beside Listing.keeps_reports h
  | refundPayment id reason => exact Listing.Turned.beside Listing.keeps_payments h
  | pauseCampaign id => exact Listing.Turned.beside Listing.keeps_campaigns h
  | resumeCampaign id => exact Listing.Turned.beside Listing.keeps_campaigns h
  | assignRole id role => exact Listing.Turned.beside Listing.keeps_team h
  | updateSettings u =>
    obtain ⟨-, -, -, rfl⟩ := h
    constructor <;> intros <;> first | rfl | contradiction

end AdminConsole
