import AdminConsole.Proofs.Sight.Scope

/-! # What a role sees

The view of a role is made of the sections whose page the role may open, of the
journal if it may open that, and of the counts of members and open reports, which
the overview shows to everyone.  The pages show no more than the view: consoles
that look alike to a role answer alike to whatever page it asks for
(`Console.Alike.view`).

The one thing beside is the name of the channel, which stands on the page of the
journal.
-/
namespace AdminConsole

namespace Role

variable {α : Type} {role : Role} {p : Permission} {a b : α}

/-- What the role sees of a thing that takes a permission. -/
def sees (role : Role) (p : Permission) (a : α) : Option α :=
  if p ∈ role.grants then some a else none

theorem sees_eq_iff : role.sees p a = role.sees p b ↔ (p ∈ role.grants → a = b) := by
  unfold sees
  split
  · next hp => exact ⟨fun h _ => Option.some.inj h, fun h => congrArg some (h hp)⟩
  · next hp => exact ⟨fun _ h => absurd h hp, fun _ => rfl⟩

theorem rel_sees {R : α → α → Prop} (h : p ∈ role.grants → R a b) :
    Option.Rel R (role.sees p a) (role.sees p b) := by
  unfold sees
  split
  · next hp => exact Option.Rel.some (h hp)
  · exact Option.Rel.none

end Role

/-- The counts of members. -/
structure MemberCounts where
  total : Nat
  active : Nat
  banned : Nat
  verified : Nat
  premium : Nat
  deriving DecidableEq

/-- The counts of some members, as the overview takes them. -/
def MemberCounts.of (ms : List Member) : MemberCounts where
  total := ms.length
  active := OverviewPage.countIn .active ms
  banned := OverviewPage.countIn .banned ms
  verified := ms.countP (·.verified)
  premium := ms.countP (·.premium)

/-- The number of reports that are still open. -/
def Report.openIn (rs : List Report) : Nat := rs.countP (·.isOpen)

/-- What a role sees: sections and the journal by the permissions of their pages, and the counts. -/
structure View where
  members : Option (List Member)
  reports : Option (List Report)
  payments : Option (List Payment)
  campaigns : Option (List Campaign)
  team : Option (List TeamMember)
  settings : Option Settings
  engagement : Option (List EngagementDay)
  revenue : Option (List RevenueMonth)
  journal : Option (List JournalEntry)
  memberCounts : MemberCounts
  openReports : Nat

/-- The view that a role has of the console. -/
def Console.viewFor (c : Console) (role : Role) : View where
  members := role.sees .viewUsers c.data.members
  reports := role.sees .viewModeration c.data.reports
  payments := role.sees .viewPayments c.data.payments
  campaigns := role.sees .viewAdsMetrics c.data.campaigns
  team := role.sees .viewRoles c.data.team
  settings := role.sees .viewSettings c.data.settings
  engagement := role.sees .viewAnalytics c.data.engagement
  revenue := role.sees .viewRevenue c.data.revenue
  journal := role.sees .viewAuditLog c.outbox.journal.entries
  memberCounts := .of c.data.members
  openReports := Report.openIn c.data.reports

/-- The same view, but that payments and entries need only be alike. -/
structure View.Alike (draws : Draws) (v w : View) : Prop where
  members : v.members = w.members
  reports : v.reports = w.reports
  payments : Option.Rel (List.Forall₂ (Payment.Alike draws)) v.payments w.payments
  campaigns : v.campaigns = w.campaigns
  team : v.team = w.team
  settings : v.settings = w.settings
  engagement : v.engagement = w.engagement
  revenue : v.revenue = w.revenue
  journal : Option.Rel (List.Forall₂ (JournalEntry.Alike draws)) v.journal w.journal
  memberCounts : v.memberCounts = w.memberCounts
  openReports : v.openReports = w.openReports

/-- What comes back from a call. -/
inductive Reply
  | shown (outcome : Except Abort (Except Refusal (Gated Page)))
  | done (outcome : Except Refusal (Gated ActionReceipt))

/-- The same reply, or alike pages or receipts. -/
inductive Reply.Alike (draws : Draws) : Reply → Reply → Prop
  | same (r : Reply) : Alike draws r r
  | page {p q : Page} : p.Alike draws q →
      Alike draws (.shown (.ok (.ok (.allowed p)))) (.shown (.ok (.ok (.allowed q))))
  | receipt {r s : ActionReceipt} : r.Alike draws s →
      Alike draws (.done (.ok (.allowed r))) (.done (.ok (.allowed s)))

theorem Reply.Alike.page_alike {draws : Draws} {p q : Page}
    (h : Reply.Alike draws (.shown (.ok (.ok (.allowed p)))) (.shown (.ok (.ok (.allowed q))))) :
    p.Alike draws q := by
  cases h with
  | same => exact Page.Alike.same p
  | page hpq => exact hpq

namespace Console

variable {role : Role} {draws : Draws} {c d : Console}

theorem view_of_mem {overflow : Overflow} {actor : Actor} {request : PageRequest}
    (hp : request.permission ∈ actor.role.grants) :
    c.view overflow actor request =
      (c.render overflow actor request).map fun outcome => outcome.map Gated.allowed := by
  unfold Console.view Gate.page Gate.check
  rw [if_pos (Actor.can_eq_true.mpr hp)]

theorem view_of_not_mem {overflow : Overflow} {actor : Actor} {request : PageRequest}
    (hp : request.permission ∉ actor.role.grants) : c.view overflow actor request =
      .ok (.ok (.denied { required := request.permission, role := actor.role })) := by
  unfold Console.view Gate.page Gate.check
  rw [if_neg fun h => hp (Actor.can_eq_true.mp h)]

/-- The consoles look alike to the role. -/
structure Alike (role : Role) (draws : Draws) (c d : Console) : Prop where
  data : ∀ s : Section, s.permission ∈ role.grants → c.data.AlikeIn draws d.data s
  memberCounts : MemberCounts.of c.data.members = MemberCounts.of d.data.members
  openReports : Report.openIn c.data.reports = Report.openIn d.data.reports
  journal : .viewAuditLog ∈ role.grants → c.outbox.journal.Alike draws d.outbox.journal
  transport : .viewAuditLog ∈ role.grants → c.outbox.channel.name = d.outbox.channel.name

namespace Alike

/-- Consoles with the same view look alike, if nothing in the journals can be taken for something
that is drawn later. -/
theorem of_viewFor_eq (h : c.viewFor role = d.viewFor role)
    (hname : role.sees .viewAuditLog c.outbox.channel.name =
      role.sees .viewAuditLog d.outbox.channel.name)
    (hc : ∀ e ∈ c.outbox.journal.entries, ∀ o ∈ draws, e.record.id ≠ o.1.recordId)
    (hd : ∀ e ∈ d.outbox.journal.entries, ∀ o ∈ draws, e.record.id ≠ o.2.recordId) :
    c.Alike role draws d := by
  obtain ⟨hmembers, hreports, hpayments, hcampaigns, hteam, hsettings, hengagement, hrevenue,
    hjournal, hcounts, hopen⟩ := View.mk.inj h
  refine ⟨fun s hs => ?_, hcounts, hopen, fun hp => ?_, Role.sees_eq_iff.mp hname⟩
  · cases s with
    | members => exact Role.sees_eq_iff.mp hmembers hs
    | reports => exact Role.sees_eq_iff.mp hreports hs
    | payments =>
      unfold Data.AlikeIn
      rw [Role.sees_eq_iff.mp hpayments hs]
      exact List.forall₂_same.mpr fun p _ => Payment.Alike.same p
    | campaigns => exact Role.sees_eq_iff.mp hcampaigns hs
    | team => exact Role.sees_eq_iff.mp hteam hs
    | settings => exact Role.sees_eq_iff.mp hsettings hs
    | engagement => exact Role.sees_eq_iff.mp hengagement hs
    | revenue => exact Role.sees_eq_iff.mp hrevenue hs
    | totals => exact Role.sees_eq_iff.mp hrevenue hs
  · have hentries := Role.sees_eq_iff.mp hjournal hp
    unfold Journal.Alike
    rw [← hentries] at hd ⊢
    exact List.forall₂_same.mpr fun e he =>
      JournalEntry.Alike.same fun o ho => ⟨hc e he o ho, hd e he o ho⟩

/-- Consoles that look alike have alike views. -/
theorem viewFor (h : c.Alike role draws d) : (c.viewFor role).Alike draws (d.viewFor role) where
  members := Role.sees_eq_iff.mpr (h.data .members)
  reports := Role.sees_eq_iff.mpr (h.data .reports)
  payments := Role.rel_sees (h.data .payments)
  campaigns := Role.sees_eq_iff.mpr (h.data .campaigns)
  team := Role.sees_eq_iff.mpr (h.data .team)
  settings := Role.sees_eq_iff.mpr (h.data .settings)
  engagement := Role.sees_eq_iff.mpr (h.data .engagement)
  revenue := Role.sees_eq_iff.mpr (h.data .revenue)
  journal := Role.rel_sees h.journal
  memberCounts := h.memberCounts
  openReports := h.openReports

/-! ## Pages -/

/-- The overview takes its counts for everyone, and the figures of other pages only for those who
may open these. -/
theorem overview_eq (h : c.Alike role draws d) (overflow : Overflow) (actor : Uuid) :
    OverviewPage.of overflow ⟨actor, role⟩ c.data =
      OverviewPage.of overflow ⟨actor, role⟩ d.data := by
  obtain ⟨htotal, hactive, hbanned, hverified, hpremium⟩ := MemberCounts.mk.inj h.memberCounts
  have hopen : c.data.reports.countP (·.isOpen) = d.data.reports.countP (·.isOpen) := h.openReports
  have husers : (if (⟨actor, role⟩ : Actor).can .viewAnalytics then
        c.data.engagement.getLast?.map (·.activeUsers) else none) =
      if (⟨actor, role⟩ : Actor).can .viewAnalytics then
        d.data.engagement.getLast?.map (·.activeUsers) else none := by
    split
    · next hp =>
      have hdays : c.data.engagement = d.data.engagement :=
        h.data .engagement (Actor.can_eq_true.mp hp)
      rw [hdays]
    · rfl
  have hrevenue : OverviewPage.lastMonth? ⟨actor, role⟩ c.data =
      OverviewPage.lastMonth? ⟨actor, role⟩ d.data := by
    unfold OverviewPage.lastMonth?
    split
    · next hp => exact congrArg List.getLast? (h.data .revenue (Actor.can_eq_true.mp hp))
    · rfl
  unfold OverviewPage.of OverviewPage.beside
  rw [htotal, hactive, hbanned, hverified, hpremium, hopen, husers, hrevenue]

/-- Behind the gate a page is rendered from what the role sees. -/
theorem render (h : c.Alike role draws d) (overflow : Overflow) (actor : Uuid)
    {request : PageRequest} (hp : request.permission ∈ role.grants) :
    c.render overflow ⟨actor, role⟩ request = d.render overflow ⟨actor, role⟩ request ∨
      ∃ p q, p.Alike draws q ∧ c.render overflow ⟨actor, role⟩ request = .ok (.ok p) ∧
        d.render overflow ⟨actor, role⟩ request = .ok (.ok q) := by
  cases request with
  | overview => exact Or.inl (by unfold Console.render; rw [h.overview_eq])
  | members status =>
    have hmembers : c.data.members = d.data.members := h.data .members hp
    exact Or.inl (by unfold Console.render MembersPage.of; rw [hmembers])
  | member id =>
    have hmembers : c.data.members = d.data.members := h.data .members hp
    exact Or.inl (by unfold Console.render MemberPage.of?; rw [hmembers])
  | moderation status =>
    have hreports : c.data.reports = d.data.reports := h.data .reports hp
    exact Or.inl (by unfold Console.render ModerationPage.of; rw [hreports])
  | engagement =>
    have hdays : c.data.engagement = d.data.engagement := h.data .engagement hp
    exact Or.inl (by unfold Console.render EngagementPage.of; rw [hdays])
  | revenue =>
    have hmonths : c.data.revenue = d.data.revenue := h.data .revenue hp
    exact Or.inl (by unfold Console.render RevenuePage.of; rw [hmonths])
  | payments =>
    have hpayments : List.Forall₂ (Payment.Alike draws) c.data.payments d.data.payments :=
      h.data .payments hp
    -- The same amounts are added up, so either both pages are there or neither is.
    unfold Console.render PaymentsPage.of
    rw [Payment.Alike.amountsIn_eq hpayments, Payment.Alike.amountsIn_eq hpayments]
    cases overflow.sum (PaymentsPage.amountsIn .settled d.data.payments) with
    | error abort => exact Or.inl rfl
    | ok settled =>
      cases overflow.sum (PaymentsPage.amountsIn .refunded d.data.payments) with
      | error abort => exact Or.inl rfl
      | ok refunded =>
        let page (ps : List Payment) : PaymentsPage :=
          ⟨ps, settled, refunded, AdminConsole.controls ⟨actor, role⟩ Button.ofPayments⟩
        exact Or.inr ⟨.payments (page c.data.payments), .payments (page d.data.payments),
          Page.Alike.payments hpayments rfl rfl rfl, rfl, rfl⟩
  | ads =>
    have hcampaigns : c.data.campaigns = d.data.campaigns := h.data .campaigns hp
    exact Or.inl (by unfold Console.render AdsPage.of; rw [hcampaigns])
  | roles =>
    have hteam : c.data.team = d.data.team := h.data .team hp
    exact Or.inl (by unfold Console.render RolesPage.of; rw [hteam])
  | settings =>
    have hsettings : c.data.settings = d.data.settings := h.data .settings hp
    exact Or.inl (by unfold Console.render SettingsPage.of; rw [hsettings])
  | audit limit =>
    exact Or.inr ⟨_, _, Page.Alike.audit ((h.journal hp).recent _) (h.transport hp), rfl, rfl⟩

/-- **To consoles that look alike, every page is answered alike.** -/
theorem view (h : c.Alike role draws d) (overflow : Overflow) (actor : Uuid)
    (request : PageRequest) :
    Reply.Alike draws (.shown (c.view overflow ⟨actor, role⟩ request))
      (.shown (d.view overflow ⟨actor, role⟩ request)) := by
  by_cases hp : request.permission ∈ role.grants
  · rw [view_of_mem hp, view_of_mem hp]
    rcases h.render overflow actor hp with heq | ⟨p, q, hpq, hc, hd⟩
    · rw [heq]
      exact Reply.Alike.same _
    · rw [hc, hd]
      exact Reply.Alike.page hpq
  · rw [view_of_not_mem hp, view_of_not_mem hp]
    exact Reply.Alike.same _

end Alike

end Console

end AdminConsole
