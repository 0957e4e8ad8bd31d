import AdminConsole.Proofs.Action.Frame
import AdminConsole.Proofs.Console.Perform
import AdminConsole.Proofs.Sight.Alike

/-! # Who acts on a section sees it

Every section is shown on one page, behind one permission
(`Section.permission`).  A role that may act on a section may open that page,
too (`Role.sees_place`).  And an action looks at nothing but its own section:
where the section is the same, what comes of the action is the same, whatever
else there is (`Action.run_alike`).  So an operator's actions tell the operator
nothing that the pages do not.
-/
namespace AdminConsole

/-- The permission that the page of the section takes. -/
def Section.permission : Section → Permission
  | members => .viewUsers
  | reports => .viewModeration
  | payments => .viewPayments
  | campaigns => .viewAdsMetrics
  | team => .viewRoles
  | settings => .viewSettings
  | engagement => .viewAnalytics
  | revenue | totals => .viewRevenue

/-- **A role that may act on a section may see it.** -/
theorem Role.sees_place (role : Role) (kind : ActionKind) :
    kind.permission ∈ role.grants → kind.place.permission ∈ role.grants := by
  cases role <;> cases kind <;> decide

/-- The data is the same in a section, or alike where it lists payments. -/
def Data.AlikeIn (draws : Draws) (d e : Data) : Section → Prop
  | .members => d.members = e.members
  | .reports => d.reports = e.reports
  | .payments => List.Forall₂ (Payment.Alike draws) d.payments e.payments
  | .campaigns => d.campaigns = e.campaigns
  | .team => d.team = e.team
  | .settings => d.settings = e.settings
  | .engagement => d.engagement = e.engagement
  | .revenue | .totals => d.revenue = e.revenue

/-- A change in one section leaves the others alike. -/
theorem Data.AlikeIn.beside {draws : Draws} {s place : Section} {d d' e e' : Data}
    (h : d.AlikeIn draws e s) (hne : place ≠ s) (hd : Data.Beside place d d')
    (he : Data.Beside place e e') : d'.AlikeIn draws e' s := by
  cases s with
  | members => exact (hd.members hne).trans (h.trans (he.members hne).symm)
  | reports => exact (hd.reports hne).trans (h.trans (he.reports hne).symm)
  | payments =>
    unfold Data.AlikeIn
    rw [hd.payments hne, he.payments hne]
    exact h
  | campaigns => exact (hd.campaigns hne).trans (h.trans (he.campaigns hne).symm)
  | team => exact (hd.team hne).trans (h.trans (he.team hne).symm)
  | settings => exact (hd.settings hne).trans (h.trans (he.settings hne).symm)
  | engagement => exact hd.engagement.trans (h.trans he.engagement.symm)
  | revenue => exact hd.revenue.trans (h.trans he.revenue.symm)
  | totals => exact hd.revenue.trans (h.trans he.revenue.symm)

/-! ## What an action looks at -/

/-- Both are refused for the same cause, or both are performed with alike results and the same
target. -/
inductive Performed.Alike (draws : Draws) :
    Except Refusal Performed → Except Refusal Performed → Prop
  | refused (r : Refusal) : Alike draws (.error r) (.error r)
  | performed {p q : Performed} : p.target = q.target → p.result.Alike draws q.result →
      Alike draws (.ok p) (.ok q)

theorem Performed.Alike.of_eq {draws : Draws} {x y : Except Refusal Performed} (h : x = y) :
    Performed.Alike draws x y := by
  subst h
  cases x with
  | error r => exact refused r
  | ok p => exact performed rfl (Affected.Alike.same _)

namespace Listing

variable {α : Type} [Entity α] (l : Listing α) {d e : Data}

theorem exec_remove (target : Uuid) (d : Data) :
    (l.remove target).exec d =
      ((Edit.takeFirst l.missing target (l.items d)).1.map
          fun a => { result := l.affected a, target := target.text },
        l.put (Edit.takeFirst l.missing target (l.items d)).2 d) := by
  rw [Listing.remove, Edit.exec_bind, Edit.exec_within]
  have htake : Edit.exec (Edit.takeFirst l.missing target) (l.items d) =
      Edit.takeFirst l.missing target (l.items d) := rfl
  rw [htake]
  rcases Edit.takeFirst l.missing target (l.items d) with ⟨_ | _, _⟩ <;> rfl

/-- An edit of a section looks at that section only. -/
theorem edit_same (h : l.items d = l.items e) (target : Uuid) (edit : Edit α Unit) :
    ((l.edit target edit).exec d).1 = ((l.edit target edit).exec e).1 ∧
      l.items ((l.edit target edit).exec d).2 = l.items ((l.edit target edit).exec e).2 := by
  rw [exec_edit, exec_edit, h]
  exact ⟨rfl, (l.items_put _ _).trans (l.items_put _ _).symm⟩

theorem remove_same (h : l.items d = l.items e) (target : Uuid) :
    ((l.remove target).exec d).1 = ((l.remove target).exec e).1 ∧
      l.items ((l.remove target).exec d).2 = l.items ((l.remove target).exec e).2 := by
  rw [exec_remove, exec_remove, h]
  exact ⟨rfl, (l.items_put _ _).trans (l.items_put _ _).symm⟩

end Listing

namespace Action

variable {draws : Draws} {o : Occasion × Occasion} {actor : Uuid} {now : Instant} {d e : Data}

theorem runEditMember_same (h : d.members = e.members) (id : Uuid) (u : MemberUpdate) :
    ((runEditMember id u).exec d).1 = ((runEditMember id u).exec e).1 ∧
      ((runEditMember id u).exec d).2.members = ((runEditMember id u).exec e).2.members := by
  unfold runEditMember
  rw [Edit.exec_bind, Edit.exec_bind]
  cases u.fault? with
  | none => exact Listing.members.edit_same h id u.write
  | some r => exact ⟨rfl, h⟩

theorem runAssignRole_same (h : d.team = e.team) (id : Uuid) (role : Role) :
    ((runAssignRole id role).exec d).1 = ((runAssignRole id role).exec e).1 ∧
      ((runAssignRole id role).exec d).2.team = ((runAssignRole id role).exec e).2.team := by
  have hedit := Listing.team.edit_same h id (TeamMember.assign (TeamMember.owners e.team) role)
  unfold runAssignRole
  simp only [Edit.exec_bind, Edit.exec_get, h]
  rcases hd : (Listing.team.edit id (TeamMember.assign (TeamMember.owners e.team) role)).exec d
    with ⟨x, d'⟩
  rcases he : (Listing.team.edit id (TeamMember.assign (TeamMember.owners e.team) role)).exec e
    with ⟨y, e'⟩
  rw [hd, he] at hedit
  obtain ⟨rfl, hteam⟩ := hedit
  cases x with
  | error r => exact ⟨rfl, hteam⟩
  | ok p => exact ⟨rfl, hteam⟩

theorem runUpdateSettings_same (h : d.settings = e.settings) (u : SettingsUpdate) :
    ((runUpdateSettings u).exec d).1 = ((runUpdateSettings u).exec e).1 ∧
      ((runUpdateSettings u).exec d).2.settings = ((runUpdateSettings u).exec e).2.settings := by
  unfold runUpdateSettings
  simp only [Edit.exec_bind, Edit.exec_within, Edit.exec_get, h]
  rcases u.write.exec e.settings with ⟨_ | keys, s⟩
  · exact ⟨rfl, rfl⟩
  · exact ⟨rfl, rfl⟩

/-- Refunds at one step, of the first one of alike payments. -/
theorem refund_first {ps qs : List Payment} (h : List.Forall₂ (Payment.Alike draws) ps qs)
    (ho : o ∈ draws) (id : Uuid) (reason : Option String) (missing : Refusal) :
    ((∃ r, (Edit.first missing id (Payment.refund o.1.now reason) ps).1 = .error r ∧
        (Edit.first missing id (Payment.refund o.2.now reason) qs).1 = .error r) ∨
      ∃ p q, p.Alike draws q ∧
        (Edit.first missing id (Payment.refund o.1.now reason) ps).1 = .ok p ∧
        (Edit.first missing id (Payment.refund o.2.now reason) qs).1 = .ok q) ∧
      List.Forall₂ (Payment.Alike draws)
        (Edit.first missing id (Payment.refund o.1.now reason) ps).2
        (Edit.first missing id (Payment.refund o.2.now reason) qs).2 := by
  induction h with
  | nil => exact ⟨Or.inl ⟨missing, rfl, rfl⟩, List.Forall₂.nil⟩
  | @cons p q _ _ hpq hrest ih =>
    have hid : Entity.id p = Entity.id q := hpq.id_eq
    unfold Edit.first
    rw [hid]
    split
    · rcases hpq.exec_refund ho reason with ⟨r, hp, hq⟩ | ⟨p', q', hpq', hp, hq⟩
      · rw [hp, hq]
        exact ⟨Or.inl ⟨r, rfl, rfl⟩, List.Forall₂.cons hpq hrest⟩
      · rw [hp, hq]
        exact ⟨Or.inr ⟨p', q', hpq', rfl, rfl⟩, List.Forall₂.cons hpq' hrest⟩
    · exact ⟨ih.1, List.Forall₂.cons hpq ih.2⟩

theorem runRefund_alike (h : List.Forall₂ (Payment.Alike draws) d.payments e.payments)
    (ho : o ∈ draws) (id : Uuid) (reason : Option String) :
    Performed.Alike draws
        ((Listing.payments.edit id (Payment.refund o.1.now reason)).exec d).1
        ((Listing.payments.edit id (Payment.refund o.2.now reason)).exec e).1 ∧
      List.Forall₂ (Payment.Alike draws)
        ((Listing.payments.edit id (Payment.refund o.1.now reason)).exec d).2.payments
        ((Listing.payments.edit id (Payment.refund o.2.now reason)).exec e).2.payments := by
  have hitems : List.Forall₂ (Payment.Alike draws) (Listing.payments.items d)
      (Listing.payments.items e) := h
  obtain ⟨hfirst, hleft⟩ := refund_first hitems ho id reason Listing.payments.missing
  rw [Listing.exec_edit, Listing.exec_edit]
  refine ⟨?_, hleft⟩
  rcases hfirst with ⟨r, hd, he⟩ | ⟨p, q, hpq, hd, he⟩
  · rw [hd, he]
    exact Performed.Alike.refused r
  · rw [hd, he]
    exact Performed.Alike.performed rfl (Affected.Alike.payment hpq)

/-- **What comes of an action depends on its own section alone.** -/
theorem run_alike (a : Action) (actor : Uuid) (h : d.AlikeIn draws e a.kind.place)
    (ho : o ∈ draws) :
    Performed.Alike draws ((a.run actor o.1.now).exec d).1 ((a.run actor o.2.now).exec e).1 ∧
      ((a.run actor o.1.now).exec d).2.AlikeIn draws ((a.run actor o.2.now).exec e).2
        a.kind.place := by
  cases a with
  | banMember id reason =>
    exact (Listing.members.edit_same h id _).imp_left Performed.Alike.of_eq
  | unbanMember id =>
    exact (Listing.members.edit_same h id _).imp_left Performed.Alike.of_eq
  | verifyMember id =>
    exact (Listing.members.edit_same h id _).imp_left Performed.Alike.of_eq
  | editMember id u => exact (runEditMember_same h id u).imp_left Performed.Alike.of_eq
  | deleteMember id => exact (Listing.members.remove_same h id).imp_left Performed.Alike.of_eq
  | resolveReport id note =>
    exact (Listing.reports.edit_same h id _).imp_left Performed.Alike.of_eq
  | dismissReport id note =>
    exact (Listing.reports.edit_same h id _).imp_left Performed.Alike.of_eq
  | removeContent id =>
    exact (Listing.reports.edit_same h id _).imp_left Performed.Alike.of_eq
  | refundPayment id reason => exact runRefund_alike h ho id reason
  | pauseCampaign id =>
    exact (Listing.campaigns.edit_same h id _).imp_left Performed.Alike.of_eq
  | resumeCampaign id =>
    exact (Listing.campaigns.edit_same h id _).imp_left Performed.Alike.of_eq
  | assignRole id role => exact (runAssignRole_same h id role).imp_left Performed.Alike.of_eq
  | updateSettings u => exact (runUpdateSettings_same h u).imp_left Performed.Alike.of_eq

end Action

end AdminConsole
