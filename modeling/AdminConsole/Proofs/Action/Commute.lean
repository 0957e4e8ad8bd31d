import AdminConsole.Proofs.Sight.Scope
import AdminConsole.Proofs.Trail.Custom

/-! # Actions on different things

Two actions on different things come to the same whichever goes first
(`Action.run_commutes`), for one of two reasons.  Actions in different sections
neither write what the other looks at nor where the other writes.  Actions in
one section each look for the first thing with their identifier: they pass over
all others, and what they put in its place still has the identifier
(`Edit.LooksFor`).  That is enough even where identifiers are not distinct, and
where one of the things is removed.

Roles are the exception.  Who is given another role decides, besides, whether
someone else is the last owner, so two assignments of roles may well meet.
-/
namespace AdminConsole

/-! ## Edits in either order -/

namespace Edit

variable {σ τ α β : Type} {e : Edit σ α} {f : Edit σ β} {s : σ}

/-- Each of two edits yields the same whether it goes first or second, and what both leave is the
same, too. -/
structure Commutes (e : Edit σ α) (f : Edit σ β) (s : σ) : Prop where
  left : (e.exec (f.exec s).2).1 = (e.exec s).1
  right : (f.exec (e.exec s).2).1 = (f.exec s).1
  state : (f.exec (e.exec s).2).2 = (e.exec (f.exec s).2).2

theorem Commutes.symm (h : Commutes e f s) : Commutes f e s := ⟨h.right, h.left, h.state.symm⟩

variable [Entity τ] {target other : Uuid}

/-- The edit goes through a list for the first thing with an identifier.  It passes over all others,
and what it puts in the place of the one that it finds does not depend on the rest. -/
structure LooksFor (target : Uuid) (e : Edit (List τ) τ) : Prop where
  none : (e.exec []).2 = []
  passes : ∀ x xs, Entity.id x ≠ target →
    e.exec (x :: xs) = ((e.exec xs).1, x :: (e.exec xs).2)
  finds : ∀ x, Entity.id x = target → ∃ outcome put, (∀ y ∈ put, Entity.id y = target) ∧
    ∀ xs, e.exec (x :: xs) = (outcome, put ++ xs)

namespace LooksFor

variable {e f : Edit (List τ) τ}

theorem exec_append (h : LooksFor target e) {pre : List τ} (hpre : ∀ x ∈ pre, Entity.id x ≠ target)
    (xs : List τ) : e.exec (pre ++ xs) = ((e.exec xs).1, pre ++ (e.exec xs).2) := by
  induction pre with
  | nil => rfl
  | cons x pre ih =>
    have hrest := ih fun y hy => hpre y (List.mem_cons_of_mem x hy)
    rw [List.cons_append, h.passes x _ (hpre x List.mem_cons_self), hrest]
    rfl

/-- At the head of a list one edit finds its thing, and the other one passes over it and over what
is put in its place. -/
theorem commutes_of_found (he : LooksFor target e) (hf : LooksFor other f) (hne : target ≠ other)
    {x : τ} (hx : Entity.id x = target) (xs : List τ) : Commutes e f (x :: xs) := by
  obtain ⟨outcome, put, hput, hfound⟩ := he.finds x hx
  have hpass : f.exec (x :: xs) = ((f.exec xs).1, x :: (f.exec xs).2) :=
    hf.passes x xs (hx ▸ hne)
  have hpassPut : f.exec (put ++ xs) = ((f.exec xs).1, put ++ (f.exec xs).2) := by
    refine hf.exec_append (fun y hy => ?_) xs
    rw [hput y hy]
    exact hne
  constructor
  · rw [hpass, hfound, hfound]
  · rw [hfound, hpassPut, hpass]
  · rw [hfound, hpassPut, hpass, hfound]

/-- **Edits that look for different identifiers commute.** -/
theorem commutes (he : LooksFor target e) (hf : LooksFor other f) (hne : target ≠ other)
    (xs : List τ) : Commutes e f xs := by
  induction xs with
  | nil =>
    constructor
    · rw [hf.none]
    · rw [he.none]
    · rw [he.none, hf.none, he.none]
  | cons x xs ih =>
    by_cases hx : Entity.id x = target
    · exact he.commutes_of_found hf hne hx xs
    · by_cases hx' : Entity.id x = other
      · exact (hf.commutes_of_found he hne.symm hx' xs).symm
      · constructor
        · rw [hf.passes x xs hx', he.passes x _ hx, he.passes x xs hx]
          exact ih.left
        · rw [he.passes x xs hx, hf.passes x _ hx', hf.passes x xs hx']
          exact ih.right
        · rw [he.passes x xs hx, hf.passes x _ hx', hf.passes x xs hx', he.passes x _ hx]
          exact congrArg (x :: ·) ih.state

/-- A refusal that comes before the list is looked at passes over everything. -/
theorem throw (r : Refusal) : LooksFor target (throw r : Edit (List τ) τ) where
  none := rfl
  passes _ _ _ := rfl
  finds x hx := ⟨.error r, [x], by simpa using hx, fun _ => rfl⟩

theorem first (missing : Refusal) {e : Edit τ Unit}
    (hid : ∀ x, Entity.id (e.exec x).2 = Entity.id x) :
    LooksFor target (Edit.first missing target e : Edit (List τ) τ) where
  none := rfl
  passes x xs hx := by
    show Edit.first missing target e (x :: xs) = _
    rw [Edit.first, if_neg hx]
    rfl
  finds x hx := by
    refine ⟨(e.exec x).1.map fun _ => (e.exec x).2, [(e.exec x).2], ?_, fun xs => ?_⟩
    · simpa using (hid x).trans hx
    · show Edit.first missing target e (x :: xs) = _
      rw [Edit.first, if_pos hx]
      rfl

theorem takeFirst (missing : Refusal) :
    LooksFor target (Edit.takeFirst missing target : Edit (List τ) τ) where
  none := rfl
  passes x xs hx := by
    show Edit.takeFirst missing target (x :: xs) = _
    rw [Edit.takeFirst, if_neg hx]
    rfl
  finds x hx := by
    refine ⟨.ok x, [], by simp, fun xs => ?_⟩
    show Edit.takeFirst missing target (x :: xs) = _
    rw [Edit.takeFirst, if_pos hx]
    rfl

end LooksFor

/-- What a decision keeps of a thing is kept by an edit that follows it. -/
theorem Follows.id_eq {e : Edit τ Unit} {decision : τ → Except Refusal (Unit × τ)}
    (h : e.Follows decision)
    (hid : ∀ x y, decision x = .ok ((), y) → Entity.id y = Entity.id x) (x : τ) :
    Entity.id (e.exec x).2 = Entity.id x := by
  rw [h x]
  split
  · next y hy => exact hid x y hy
  · rfl

end Edit

/-! ## Actions in one section -/

namespace Listing

variable {α : Type} [Entity α] {l : Listing α} {target other : Uuid} {run run' : Edit Data Performed}

/-- All that the action does is to look for the thing with the identifier in its section. -/
def LooksFor (l : Listing α) (target : Uuid) (run : Edit Data Performed) : Prop :=
  ∃ e : Edit (List α) α, e.LooksFor target ∧ ∀ d, run.exec d =
    ((e.exec (l.items d)).1.map fun a => { result := l.affected a, target := target.text },
      l.put (e.exec (l.items d)).2 d)

theorem looksFor_edit (l : Listing α) (target : Uuid) {e : Edit α Unit}
    (hid : ∀ a, Entity.id (e.exec a).2 = Entity.id a) : l.LooksFor target (l.edit target e) :=
  ⟨_, Edit.LooksFor.first l.missing hid, fun d => l.exec_edit target e d⟩

theorem looksFor_remove (l : Listing α) (target : Uuid) : l.LooksFor target (l.remove target) :=
  ⟨_, Edit.LooksFor.takeFirst l.missing, fun d => l.exec_remove target d⟩

/-- An action that may be refused for what is asked by itself looks for its thing or for nothing. -/
theorem LooksFor.unless {cause : Option Refusal} (h : l.LooksFor target run) :
    l.LooksFor target (do Edit.refuseIf? cause; run) := by
  cases cause with
  | none => exact h
  | some r =>
    refine ⟨_, Edit.LooksFor.throw r, fun d => ?_⟩
    show (Except.error r, d) = (Except.error r, l.put (l.items d) d)
    rw [l.put_items]

/-- Actions that look for different things of one section commute. -/
theorem LooksFor.commutes (hput : ∀ xs ys d, l.put ys (l.put xs d) = l.put ys d)
    (h : l.LooksFor target run) (h' : l.LooksFor other run') (hne : target ≠ other) (d : Data) :
    run.Commutes run' d := by
  obtain ⟨e, he, hrun⟩ := h
  obtain ⟨f, hf, hrun'⟩ := h'
  have hcomm := he.commutes hf hne (l.items d)
  constructor
  · simp only [hrun, hrun', l.items_put, hcomm.left]
  · simp only [hrun, hrun', l.items_put, hcomm.right]
  · simp only [hrun, hrun', l.items_put, hput, hcomm.state]

end Listing

namespace Action

variable {α : Type} [Entity α] {l : Listing α} {a b : Action}

/-- All that the action does, whoever it is of and whenever, is to look for its thing in the
section. -/
def Seeks (l : Listing α) (a : Action) : Prop :=
  ∀ actor now, ∃ id, a.addressee? = some id ∧ l.LooksFor id (a.run actor now)

theorem Seeks.commutes (hput : ∀ xs ys d, l.put ys (l.put xs d) = l.put ys d) (h : a.Seeks l)
    (h' : b.Seeks l) (hne : a.addressee? ≠ b.addressee?) (actor actor' : Uuid)
    (now now' : Instant) (d : Data) : (a.run actor now).Commutes (b.run actor' now') d := by
  obtain ⟨id, hid, hlooks⟩ := h actor now
  obtain ⟨id', hid', hlooks'⟩ := h' actor' now'
  refine hlooks.commutes hput hlooks' ?_ d
  rintro rfl
  exact hne (hid.trans hid'.symm)

theorem seeks_member (h : a.kind.place = .members) : a.Seeks Listing.members := by
  intro actor now
  cases a with
  | banMember id reason =>
    refine ⟨id, rfl, Listing.looksFor_edit _ id ((Member.ban_follows reason).id_eq ?_)⟩
    intro m m' hm
    obtain ⟨-, rfl⟩ := ok_of_refuse hm
    rfl
  | unbanMember id =>
    refine ⟨id, rfl, Listing.looksFor_edit _ id (Member.unban_follows.id_eq ?_)⟩
    intro m m' hm
    obtain ⟨-, rfl⟩ := ok_of_allow hm
    rfl
  | verifyMember id =>
    refine ⟨id, rfl, Listing.looksFor_edit _ id (Member.verify_follows.id_eq ?_)⟩
    intro m m' hm
    obtain ⟨-, rfl⟩ := ok_of_refuse hm
    rfl
  | editMember id u =>
    refine ⟨id, rfl, (Listing.looksFor_edit _ id ((MemberUpdate.write_follows u).id_eq ?_)).unless⟩
    intro m m' hm
    obtain rfl := (Prod.mk.inj (Except.ok.inj hm)).2
    rfl
  | deleteMember id => exact ⟨id, rfl, Listing.looksFor_remove _ id⟩
  | _ => cases h

theorem seeks_report (h : a.kind.place = .reports) : a.Seeks Listing.reports := by
  intro actor now
  have hclose : ∀ status note r, Entity.id ((Report.close status actor note).exec r).2 =
      Entity.id r := by
    intro status note
    refine (Report.close_follows status actor note).id_eq ?_
    intro r r' hr
    obtain ⟨-, rfl⟩ := ok_of_allow hr
    rfl
  cases a with
  | resolveReport id note => exact ⟨id, rfl, Listing.looksFor_edit _ id (hclose .resolved note)⟩
  | dismissReport id note => exact ⟨id, rfl, Listing.looksFor_edit _ id (hclose .dismissed note)⟩
  | removeContent id =>
    refine ⟨id, rfl, Listing.looksFor_edit _ id ((Report.takeDown_follows actor).id_eq ?_)⟩
    intro r r' hr
    obtain ⟨-, rfl⟩ := ok_of_refuse hr
    rfl
  | _ => cases h

theorem seeks_payment (h : a.kind.place = .payments) : a.Seeks Listing.payments := by
  intro actor now
  cases a with
  | refundPayment id reason =>
    refine ⟨id, rfl, Listing.looksFor_edit _ id ((Payment.refund_follows now reason).id_eq ?_)⟩
    intro p p' hp
    obtain ⟨-, rfl⟩ := ok_of_refuse hp
    rfl
  | _ => cases h

theorem seeks_campaign (h : a.kind.place = .campaigns) : a.Seeks Listing.campaigns := by
  intro actor now
  have hturn : ∀ status c, Entity.id ((Campaign.turn status).exec c).2 = Entity.id c := by
    intro status
    refine (Campaign.turn_follows status).id_eq ?_
    intro c c' hc
    obtain ⟨-, rfl⟩ := ok_of_refuse hc
    rfl
  cases a with
  | pauseCampaign id => exact ⟨id, rfl, Listing.looksFor_edit _ id (hturn .paused)⟩
  | resumeCampaign id => exact ⟨id, rfl, Listing.looksFor_edit _ id (hturn .active)⟩
  | _ => cases h

end Action

/-! ## Actions in different sections -/

/-- The data is the same in a section. -/
def Data.SameIn (d e : Data) : Section → Prop
  | .members => d.members = e.members
  | .reports => d.reports = e.reports
  | .payments => d.payments = e.payments
  | .campaigns => d.campaigns = e.campaigns
  | .team => d.team = e.team
  | .settings => d.settings = e.settings
  | .engagement => d.engagement = e.engagement
  | .revenue | .totals => d.revenue = e.revenue

namespace Data

variable {c d e : Data} {s place : Section}

theorem SameIn.symm (h : d.SameIn e s) : e.SameIn d s := by
  cases s <;> exact Eq.symm h

theorem SameIn.trans (h : c.SameIn d s) (h' : d.SameIn e s) : c.SameIn e s := by
  cases s <;> exact Eq.trans h h'

/-- Data is its sections. -/
theorem eq_of_sameIn (h : ∀ s, d.SameIn e s) : d = e := by
  have hmembers : d.members = e.members := h .members
  have hreports : d.reports = e.reports := h .reports
  have hpayments : d.payments = e.payments := h .payments
  have hcampaigns : d.campaigns = e.campaigns := h .campaigns
  have hteam : d.team = e.team := h .team
  have hsettings : d.settings = e.settings := h .settings
  have hengagement : d.engagement = e.engagement := h .engagement
  have hrevenue : d.revenue = e.revenue := h .revenue
  cases d
  cases e
  simp_all only

theorem Beside.sameIn (h : Beside place d e) (hne : place ≠ s) : e.SameIn d s := by
  cases s with
  | members => exact h.members hne
  | reports => exact h.reports hne
  | payments => exact h.payments hne
  | campaigns => exact h.campaigns hne
  | team => exact h.team hne
  | settings => exact h.settings hne
  | engagement => exact h.engagement
  | revenue => exact h.revenue
  | totals => exact h.revenue

end Data

/-- Payments that are alike up to equal draws are the same. -/
theorem Payment.alike_iff_eq {draws : Draws} (h : ∀ o ∈ draws, o.1 = o.2) {p q : Payment} :
    p.Alike draws q ↔ p = q := by
  constructor
  · intro hpq
    cases hpq with
    | same => rfl
    | refunded p ho => rw [h _ ho]
  · rintro rfl
    exact Alike.same p

theorem Data.alikeIn_iff_sameIn {draws : Draws} (h : ∀ o ∈ draws, o.1 = o.2) {d e : Data}
    {s : Section} : d.AlikeIn draws e s ↔ d.SameIn e s := by
  cases s with
  | payments =>
    have hsame : Payment.Alike draws = Eq := by
      funext p q
      exact propext (Payment.alike_iff_eq h)
    show List.Forall₂ (Payment.Alike draws) d.payments e.payments ↔ d.payments = e.payments
    rw [hsame, List.forall₂_eq_eq_eq]
  | _ => exact Iff.rfl

theorem Performed.Alike.eq {draws : Draws} (h : ∀ o ∈ draws, o.1 = o.2)
    {x y : Except Refusal Performed} (hxy : Performed.Alike draws x y) : x = y := by
  cases hxy with
  | refused r => rfl
  | @performed p q htarget hresult =>
    obtain ⟨result, target⟩ := p
    obtain ⟨result', target'⟩ := q
    obtain rfl : target = target' := htarget
    cases hresult with
    | same => rfl
    | payment hpq =>
      obtain rfl := (Payment.alike_iff_eq h).mp hpq
      rfl

namespace Action

/-- At one instant, what comes of an action is settled by its own section. -/
theorem run_sameIn (a : Action) (actor : Uuid) (now : Instant) {d e : Data}
    (h : d.SameIn e a.kind.place) :
    ((a.run actor now).exec d).1 = ((a.run actor now).exec e).1 ∧
      ((a.run actor now).exec d).2.SameIn ((a.run actor now).exec e).2 a.kind.place := by
  let o : Occasion := { now := now, recordId := .ofNat 0 }
  have hequal : ∀ o' ∈ [(o, o)], o'.1 = o'.2 := by
    intro o' ho
    rw [List.mem_singleton.mp ho]
  obtain ⟨houtcome, hleft⟩ := a.run_alike (o := (o, o)) actor
    ((Data.alikeIn_iff_sameIn hequal).mpr h) List.mem_cons_self
  exact ⟨houtcome.eq hequal, (Data.alikeIn_iff_sameIn hequal).mp hleft⟩

/-- Performed or refused, an action leaves the other sections as they are. -/
theorem run_beside (a : Action) (actor : Uuid) (now : Instant) (d : Data) :
    Data.Beside a.kind.place d ((a.run actor now).exec d).2 := by
  rcases hrun : (a.run actor now).exec d with ⟨r | p, d'⟩
  · obtain rfl := a.run_atomic actor now d d' r hrun
    constructor <;> intros <;> rfl
  · exact (run_ok hrun).2.beside

theorem run_commutes_of_place {a b : Action} (hne : a.kind.place ≠ b.kind.place)
    (actor actor' : Uuid) (now now' : Instant) (d : Data) :
    (a.run actor now).Commutes (b.run actor' now') d := by
  have hda := a.run_beside actor now d
  have hdb := b.run_beside actor' now' d
  obtain ⟨hleft, hown⟩ := a.run_sameIn actor now (hdb.sameIn hne.symm)
  obtain ⟨hright, hown'⟩ := b.run_sameIn actor' now' (hda.sameIn hne)
  have hdab := b.run_beside actor' now' ((a.run actor now).exec d).2
  have hdba := a.run_beside actor now ((b.run actor' now').exec d).2
  refine ⟨hleft, hright, Data.eq_of_sameIn fun s => ?_⟩
  by_cases hs : a.kind.place = s
  · subst hs
    exact (hdab.sameIn hne.symm).trans hown.symm
  · by_cases hs' : b.kind.place = s
    · subst hs'
      exact hown'.trans (hdba.sameIn hne).symm
    · exact ((hdab.sameIn hs').trans (hda.sameIn hs)).trans
        ((hdba.sameIn hs).trans (hdb.sameIn hs')).symm

theorem kind_of_place_team {a : Action} (h : a.kind.place = .team) : a.kind = .assignRole := by
  cases a <;> first | rfl | cases h

theorem addressee?_of_place_settings {a : Action} (h : a.kind.place = .settings) :
    a.addressee? = none := by
  cases a <;> first | rfl | cases h

/-- **Actions on different things commute, unless both assign roles.** -/
theorem run_commutes {a b : Action} (hne : a.entity ≠ b.entity)
    (hroles : ¬ (a.kind = .assignRole ∧ b.kind = .assignRole)) (actor actor' : Uuid)
    (now now' : Instant) (d : Data) : (a.run actor now).Commutes (b.run actor' now') d := by
  by_cases hplace : a.kind.place = b.kind.place
  · have hids : a.addressee? ≠ b.addressee? := fun hid => hne (Prod.ext hplace hid)
    cases hs : a.kind.place with
    | members =>
      exact (seeks_member hs).commutes (fun _ _ _ => rfl) (seeks_member (hplace.symm.trans hs))
        hids actor actor' now now' d
    | reports =>
      exact (seeks_report hs).commutes (fun _ _ _ => rfl) (seeks_report (hplace.symm.trans hs))
        hids actor actor' now now' d
    | payments =>
      exact (seeks_payment hs).commutes (fun _ _ _ => rfl) (seeks_payment (hplace.symm.trans hs))
        hids actor actor' now now' d
    | campaigns =>
      exact (seeks_campaign hs).commutes (fun _ _ _ => rfl) (seeks_campaign (hplace.symm.trans hs))
        hids actor actor' now now' d
    | team =>
      exact absurd ⟨kind_of_place_team hs, kind_of_place_team (hplace.symm.trans hs)⟩ hroles
    | settings =>
      have hnone := addressee?_of_place_settings hs
      exact absurd (hnone.trans (addressee?_of_place_settings (hplace.symm.trans hs)).symm) hids
    | engagement | revenue | totals => cases a <;> cases hs
  · exact run_commutes_of_place hplace actor actor' now now' d

end Action

end AdminConsole
