import AdminConsole.Proofs.Action.Frame
import AdminConsole.Proofs.Trail.Course

/-! # What things become

Actions write things where they stand and add none; only members are ever
removed.  So what the data lists at the end of a run can be told thing by thing
from what it listed before: `Becomes` says what one thing may turn into, and
`Data.Becomes` that every thing did, in its place.

Most of a thing is never written at all, which is what `lasting` keeps of it.
Of the rest some is final once it is there: the end of a report, the removal of
its content, a refund, a verification.  A report that was closed may still have
its content taken down, and that writes its handler if it has none; so the
handler of a closed report is final for those only that have one.
-/
namespace AdminConsole

/-! ## Lists of things -/

section Lists

variable {α β : Type} {R : α → α → Prop} {xs ys zs : List α}

theorem forall₂_trans (hR : ∀ a b c, R a b → R b c → R a c) (h : List.Forall₂ R xs ys)
    (h' : List.Forall₂ R ys zs) : List.Forall₂ R xs zs := by
  induction h generalizing zs with
  | nil => exact h'
  | cons hab _ ih =>
    cases h' with
    | cons hbc hrest => exact List.Forall₂.cons (hR _ _ _ hab hbc) (ih hrest)

/-- What is the same of any two things that correspond is the same of the lists. -/
theorem map_eq_of_forall₂ {v : α → β} (hv : ∀ a b, R a b → v b = v a)
    (h : List.Forall₂ R xs ys) : ys.map v = xs.map v := by
  induction h with
  | nil => rfl
  | cons hab _ ih => rw [List.map_cons, List.map_cons, hv _ _ hab, ih]

theorem sublist_of_sublistForall₂ {v : α → β} (hv : ∀ a b, R a b → v a = v b)
    (h : List.SublistForall₂ R xs ys) : (xs.map v).Sublist (ys.map v) := by
  obtain ⟨kept, hkept, hsub⟩ := List.sublistForall₂_iff.mp h
  rw [← map_eq_of_forall₂ (fun a b hab => (hv a b hab).symm) hkept]
  exact hsub.map v

/-- Everything in one list corresponds to something in the other. -/
theorem exists_mem_of_forall₂ (h : List.Forall₂ R xs ys) {x : α} (hx : x ∈ xs) :
    ∃ y ∈ ys, R x y := by
  induction h with
  | nil => cases hx
  | @cons a b xs ys hab _ ih =>
    rcases List.mem_cons.mp hx with rfl | hx
    · exact ⟨b, List.mem_cons_self, hab⟩
    · obtain ⟨y, hy, hxy⟩ := ih hx
      exact ⟨y, List.mem_cons_of_mem b hy, hxy⟩

variable [Entity α]

theorem id_eq_of_find? {target : Uuid} {a : α} (h : Entity.find? target xs = some a) :
    Entity.id a = target := by
  simpa using List.find?_some h

/-- Things that correspond have the same place, and so are meant by the same identifier. -/
theorem exists_find?_of_forall₂ (hid : ∀ a b, R a b → Entity.id b = Entity.id a) {target : Uuid}
    {a : α} (h : List.Forall₂ R xs ys) (ha : Entity.find? target xs = some a) :
    ∃ b, Entity.find? target ys = some b ∧ R a b := by
  induction h with
  | nil => cases ha
  | @cons x y xs ys hxy _ ih =>
    by_cases hx : Entity.id x = target
    · have hfirst : Entity.find? target (x :: xs) = some x :=
        List.find?_cons_of_pos (decide_eq_true hx)
      obtain rfl := Option.some.inj (hfirst.symm.trans ha)
      exact ⟨y, List.find?_cons_of_pos (decide_eq_true ((hid x y hxy).trans hx)), hxy⟩
    · have hy : ¬ Entity.id y = target := fun hy => hx ((hid x y hxy).symm.trans hy)
      have hskip : Entity.find? target (x :: xs) = Entity.find? target xs :=
        List.find?_cons_of_neg (by simpa using hx)
      obtain ⟨b, hb, hab⟩ := ih (hskip ▸ ha)
      exact ⟨b, (List.find?_cons_of_neg (by simpa using hy)).trans hb, hab⟩

end Lists

/-! ## Single things -/

namespace Member

/-- The member without what actions write. -/
def lasting (m : Member) : Member :=
  { m with
    displayName := ""
    email := ""
    city := ""
    status := .active
    verified := false
    banReason := none }

/-- What a member may become. -/
structure Becomes (m m' : Member) : Prop where
  lasting : m'.lasting = m.lasting
  verified : m.verified = true → m'.verified = true

namespace Becomes

variable {m m' m'' : Member}

theorem refl (m : Member) : m.Becomes m := ⟨rfl, fun hm => hm⟩

theorem trans (h : m.Becomes m') (h' : m'.Becomes m'') : m.Becomes m'' where
  lasting := h'.lasting.trans h.lasting
  verified hm := h'.verified (h.verified hm)

instance : Std.Refl fun m' m : Member => m.Becomes m' := ⟨refl⟩

instance : IsTrans Member fun m' m => m.Becomes m' := ⟨fun _ _ _ h h' => h'.trans h⟩

theorem id_eq (h : m.Becomes m') : m'.id = m.id := by
  have hid : m'.lasting.id = m.lasting.id := congrArg Member.id h.lasting
  exact hid

end Becomes

end Member

namespace Report

/-- The report without what actions write. -/
def lasting (r : Report) : Report :=
  { r with
    status := .opened
    contentRemoved := false
    handledBy := none
    resolutionNote := none }

/-- What a report may become. -/
structure Becomes (r r' : Report) : Prop where
  lasting : r'.lasting = r.lasting
  closed : r.status ≠ .opened → r'.status = r.status ∧ r'.resolutionNote = r.resolutionNote
  handled : r.status ≠ .opened → r.handledBy.isSome → r'.handledBy = r.handledBy
  removed : r.contentRemoved = true → r'.contentRemoved = true

namespace Becomes

variable {r r' r'' : Report}

theorem refl (r : Report) : r.Becomes r :=
  ⟨rfl, fun _ => ⟨rfl, rfl⟩, fun _ _ => rfl, fun hr => hr⟩

theorem trans (h : r.Becomes r') (h' : r'.Becomes r'') : r.Becomes r'' where
  lasting := h'.lasting.trans h.lasting
  closed hr := by
    obtain ⟨hstatus, hnote⟩ := h.closed hr
    obtain ⟨hstatus', hnote'⟩ := h'.closed (hstatus ▸ hr)
    exact ⟨hstatus'.trans hstatus, hnote'.trans hnote⟩
  handled hr hsome := by
    have hsame := h.handled hr hsome
    obtain ⟨hstatus, -⟩ := h.closed hr
    exact (h'.handled (hstatus ▸ hr) (hsame ▸ hsome)).trans hsame
  removed hr := h'.removed (h.removed hr)

theorem id_eq (h : r.Becomes r') : r'.id = r.id := by
  have hid : r'.lasting.id = r.lasting.id := congrArg Report.id h.lasting
  exact hid

theorem afterClose (status : ReportStatus) (handler : Uuid) (note : Option String)
    (hr : r.status = .opened) : r.Becomes (r.afterClose status handler note) where
  lasting := rfl
  closed hclosed := absurd hr hclosed
  handled hclosed := absurd hr hclosed
  removed hremoved := hremoved

theorem afterTakeDown (handler : Uuid) (r : Report) : r.Becomes (r.afterTakeDown handler) where
  lasting := rfl
  closed _ := ⟨rfl, rfl⟩
  handled _ hsome := handledBy_afterTakeDown hsome
  removed _ := rfl

end Becomes

end Report

namespace Payment

/-- The payment without what a refund writes. -/
def lasting (p : Payment) : Payment :=
  { p with
    status := .settled
    refundedAt := none
    refundReason := none }

/-- What a payment may become; one that is refunded stays exactly as it is. -/
structure Becomes (p p' : Payment) : Prop where
  lasting : p'.lasting = p.lasting
  refunded : p.status = .refunded → p' = p

namespace Becomes

variable {p p' p'' : Payment}

theorem refl (p : Payment) : p.Becomes p := ⟨rfl, fun _ => rfl⟩

theorem trans (h : p.Becomes p') (h' : p'.Becomes p'') : p.Becomes p'' where
  lasting := h'.lasting.trans h.lasting
  refunded hp := by
    obtain rfl := h.refunded hp
    exact h'.refunded hp

theorem id_eq (h : p.Becomes p') : p'.id = p.id := by
  have hid : p'.lasting.id = p.lasting.id := congrArg Payment.id h.lasting
  exact hid

theorem afterRefund (now : Instant) (reason : Option String) (hp : p.status ≠ .refunded) :
    p.Becomes (p.afterRefund now reason) :=
  ⟨rfl, fun hrefunded => absurd hrefunded hp⟩

end Becomes

end Payment

/-- The campaign without its status, which is all that actions write. -/
def Campaign.lasting (c : Campaign) : Campaign := { c with status := .active }

/-- The operator without the role, which is all that actions write. -/
def TeamMember.lasting (t : TeamMember) : TeamMember := { t with role := .owner }

/-! ## The data -/

/-- Every thing of `d` became what it may become, each in its place; only members may be gone. -/
structure Data.Becomes (d e : Data) : Prop where
  members : List.SublistForall₂ (fun m' m : Member => m.Becomes m') e.members d.members
  reports : List.Forall₂ Report.Becomes d.reports e.reports
  payments : List.Forall₂ Payment.Becomes d.payments e.payments
  campaigns : e.campaigns.map Campaign.lasting = d.campaigns.map Campaign.lasting
  team : e.team.map TeamMember.lasting = d.team.map TeamMember.lasting
  engagement : e.engagement = d.engagement
  revenue : e.revenue = d.revenue

namespace Data.Becomes

variable {c d e : Data}

theorem refl (d : Data) : d.Becomes d where
  members := Std.Refl.refl d.members
  reports := List.forall₂_same.mpr fun r _ => Report.Becomes.refl r
  payments := List.forall₂_same.mpr fun p _ => Payment.Becomes.refl p
  campaigns := rfl
  team := rfl
  engagement := rfl
  revenue := rfl

theorem trans (h : c.Becomes d) (h' : d.Becomes e) : c.Becomes e where
  members := IsTrans.trans _ _ _ h'.members h.members
  reports := forall₂_trans (fun _ _ _ => Report.Becomes.trans) h.reports h'.reports
  payments := forall₂_trans (fun _ _ _ => Payment.Becomes.trans) h.payments h'.payments
  campaigns := h'.campaigns.trans h.campaigns
  team := h'.team.trans h.team
  engagement := h'.engagement.trans h.engagement
  revenue := h'.revenue.trans h.revenue

end Data.Becomes

/-! ## Performed actions -/

namespace Listing

variable {α β : Type} [Entity α] {l : Listing α} {target : Uuid} {before : α → Prop} {after : α → α}
  {d d' : Data} {result : Affected}

/-- One thing became what an action makes of it, and the others stayed what they were. -/
theorem Turned.forall₂ {R : α → α → Prop} (h : l.Turned target before after d result d')
    (hrefl : ∀ a, R a a) (hafter : ∀ a, before a → R a (after a)) :
    List.Forall₂ R (l.items d) (l.items d') := by
  obtain ⟨a, ha, hedited, -⟩ := h
  exact hedited.forall₂ hrefl (hafter a ha)

theorem Turned.sublistForall₂ {R : α → α → Prop} (h : l.Turned target before after d result d')
    (hrefl : ∀ a, R a a) (hafter : ∀ a, before a → R a (after a)) :
    List.SublistForall₂ (fun b a => R a b) (l.items d') (l.items d) :=
  List.sublistForall₂_iff.mpr ⟨l.items d, (h.forall₂ hrefl hafter).flip, List.Sublist.refl _⟩

theorem Turned.map_eq {v : α → β} (h : l.Turned target before after d result d')
    (hv : ∀ a, v (after a) = v a) : (l.items d').map v = (l.items d).map v :=
  map_eq_of_forall₂ (fun _ _ hab => hab)
    (h.forall₂ (R := fun a b => v b = v a) (fun _ => rfl) fun a _ => hv a)

theorem Removed.sublist {a : α} (h : l.Removed target a d d') :
    (l.items d').Sublist (l.items d) := by
  obtain ⟨pre, post, hitems, -, -, rfl⟩ := h
  rw [hitems, l.items_put]
  exact List.Sublist.append (List.Sublist.refl pre) (List.sublist_cons_self a post)

end Listing

namespace Action.Effect

variable {actor : Uuid} {now : Instant} {a : Action} {d d' : Data} {result : Affected}

theorem members_become (h : a.Effect actor now d result d') :
    List.SublistForall₂ (fun m' m : Member => m.Becomes m') d'.members d.members := by
  by_cases hplace : a.kind.place = .members
  · cases a with
    | banMember id reason =>
      exact Listing.Turned.sublistForall₂ h Member.Becomes.refl fun _ _ => ⟨rfl, fun hm => hm⟩
    | unbanMember id =>
      exact Listing.Turned.sublistForall₂ h Member.Becomes.refl fun _ _ => ⟨rfl, fun hm => hm⟩
    | verifyMember id =>
      exact Listing.Turned.sublistForall₂ h Member.Becomes.refl fun _ _ => ⟨rfl, fun _ => rfl⟩
    | editMember id u =>
      exact Listing.Turned.sublistForall₂ h.2 Member.Becomes.refl fun _ _ => ⟨rfl, fun hm => hm⟩
    | deleteMember id =>
      obtain ⟨m, hm, -⟩ := h
      exact hm.sublist.sublistForall₂
    | _ => cases hplace
  · rw [h.beside.members hplace]
    exact Std.Refl.refl d.members

theorem reports_become (h : a.Effect actor now d result d') :
    List.Forall₂ Report.Becomes d.reports d'.reports := by
  by_cases hplace : a.kind.place = .reports
  · cases a with
    | resolveReport id note =>
      exact Listing.Turned.forall₂ h Report.Becomes.refl fun _ hr =>
        Report.Becomes.afterClose .resolved actor note hr
    | dismissReport id note =>
      exact Listing.Turned.forall₂ h Report.Becomes.refl fun _ hr =>
        Report.Becomes.afterClose .dismissed actor note hr
    | removeContent id =>
      exact Listing.Turned.forall₂ h Report.Becomes.refl fun r _ =>
        Report.Becomes.afterTakeDown actor r
    | _ => cases hplace
  · rw [h.beside.reports hplace]
    exact List.forall₂_same.mpr fun r _ => Report.Becomes.refl r

theorem payments_become (h : a.Effect actor now d result d') :
    List.Forall₂ Payment.Becomes d.payments d'.payments := by
  by_cases hplace : a.kind.place = .payments
  · cases a with
    | refundPayment id reason =>
      exact Listing.Turned.forall₂ h Payment.Becomes.refl fun _ hp =>
        Payment.Becomes.afterRefund now reason hp
    | _ => cases hplace
  · rw [h.beside.payments hplace]
    exact List.forall₂_same.mpr fun p _ => Payment.Becomes.refl p

theorem campaigns_last (h : a.Effect actor now d result d') :
    d'.campaigns.map Campaign.lasting = d.campaigns.map Campaign.lasting := by
  by_cases hplace : a.kind.place = .campaigns
  · cases a with
    | pauseCampaign id => exact Listing.Turned.map_eq h fun _ => rfl
    | resumeCampaign id => exact Listing.Turned.map_eq h fun _ => rfl
    | _ => cases hplace
  · rw [h.beside.campaigns hplace]

theorem team_lasts (h : a.Effect actor now d result d') :
    d'.team.map TeamMember.lasting = d.team.map TeamMember.lasting := by
  by_cases hplace : a.kind.place = .team
  · cases a with
    | assignRole id role => exact Listing.Turned.map_eq h fun _ => rfl
    | _ => cases hplace
  · rw [h.beside.team hplace]

/-- **What a performed action makes of the things that the data lists.** -/
theorem becomes (h : a.Effect actor now d result d') : d.Becomes d' where
  members := h.members_become
  reports := h.reports_become
  payments := h.payments_become
  campaigns := h.campaigns_last
  team := h.team_lasts
  engagement := h.beside.engagement
  revenue := h.beside.revenue

end Action.Effect

/-- What becomes of things by any number of actions. -/
theorem Data.Leads.becomes {d e : Data} (h : d.Leads e) : d.Becomes e :=
  h.keeps (fun heffect hsofar => hsofar.trans heffect.becomes) (Data.Becomes.refl d)

end AdminConsole
