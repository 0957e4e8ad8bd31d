import AdminConsole.Model.Sample
import AdminConsole.Proofs.Page.Render

/-! # Pages that count the same things

The overview, the list of members and the queue of reports are opened one by
one, each behind its own gate, and take their counts each in its own way: the
overview counts by state, the list of members counts what it shows, and the
queue counts its open reports whatever it shows.  Opened on the same data they
agree (`Console.pages_agree`), and what they show narrowed to one state is
shared out among the states: nothing is shown twice, nothing is left out, and
the order stays.
-/
namespace AdminConsole

/-! ## Sharing out a list -/

section Shares

variable {α κ : Type} [DecidableEq κ] {f : α → κ} {ks : List κ} {l : List α}

/-- The lists share out another one: each has some of its things in their order, no two have a thing
in common, and together they have all, each as often as it occurs. -/
structure Shares (parts : List (List α)) (whole : List α) : Prop where
  sublist : ∀ part ∈ parts, part.Sublist whole
  disjoint : parts.Pairwise List.Disjoint
  perm : parts.flatten.Perm whole

/-- The things of a list that have a key. -/
def keyed (f : α → κ) (l : List α) (k : κ) : List α := l.filter fun a => f a == k

theorem mem_keyed {k : κ} {a : α} : a ∈ keyed f l k ↔ a ∈ l ∧ f a = k := by
  rw [keyed, List.mem_filter, beq_iff_eq]

/-- What has one key does not change when what has another is taken away. -/
theorem keyed_filter_ne {j k : κ} (h : k ≠ j) :
    keyed f (l.filter fun a => !(f a == j)) k = keyed f l k := by
  unfold keyed
  rw [List.filter_filter]
  refine List.filter_congr fun a _ => ?_
  by_cases hk : f a = k
  · simp [hk, h]
  · simp [hk]

theorem flatten_keyed_perm (hks : ks.Nodup) (hl : ∀ a ∈ l, f a ∈ ks) :
    (ks.map (keyed f l)).flatten.Perm l := by
  induction ks generalizing l with
  | nil =>
    rcases l with _ | ⟨a, l⟩
    · exact List.Perm.refl _
    · exact absurd (hl a List.mem_cons_self) List.not_mem_nil
  | cons j ks ih =>
    obtain ⟨hj, hks⟩ := List.nodup_cons.mp hks
    -- The other keys share out what is left when the first one has been served.
    let left := l.filter fun a => !(f a == j)
    have hleft : ∀ a ∈ left, f a ∈ ks := by
      intro a ha
      obtain ⟨ha, hne⟩ := List.mem_filter.mp ha
      rcases List.mem_cons.mp (hl a ha) with he | hmem
      · simp [he] at hne
      · exact hmem
    have hsame : ks.map (keyed f l) = ks.map (keyed f left) := by
      refine List.map_congr_left fun k hk => (keyed_filter_ne ?_).symm
      rintro rfl
      exact hj hk
    rw [List.map_cons, List.flatten_cons, hsame]
    exact ((ih hks hleft).append_left _).trans (List.filter_append_perm (fun a => f a == j) l)

/-- Keys that are all different, and among which there are those of all things, share out a list. -/
theorem shares_keyed (hks : ks.Nodup) (hl : ∀ a ∈ l, f a ∈ ks) :
    Shares (ks.map (keyed f l)) l where
  sublist part hpart := by
    obtain ⟨k, -, rfl⟩ := List.mem_map.mp hpart
    exact List.filter_sublist
  disjoint := by
    rw [List.pairwise_map]
    refine hks.imp fun {j k} hne a haj hak => hne ?_
    rw [← (mem_keyed.mp haj).2, ← (mem_keyed.mp hak).2]
  perm := flatten_keyed_perm hks hl

end Shares

theorem AccountStatus.mem_all (status : AccountStatus) : status ∈ all := by
  cases status <;> decide

theorem ReportStatus.mem_all (status : ReportStatus) : status ∈ all := by
  cases status <;> decide

/-! ## What the pages have in common -/

/-- The count of members in a state that the overview shows. -/
def OverviewPage.membersIn (p : OverviewPage) : AccountStatus → Nat
  | .active => p.activeMembers
  | .banned => p.bannedMembers

/-- The pages agree about the data: the overview, and for every way to narrow them the list of
members and the queue of reports. -/
structure PagesAgree (d : Data) (overview : OverviewPage)
    (members : Option AccountStatus → MembersPage)
    (reports : Option ReportStatus → ModerationPage) : Prop where
  /-- The overview counts every member in one of the two states. -/
  total_eq : overview.totalMembers = overview.activeMembers + overview.bannedMembers
  /-- The whole list shows all members, and counts as many as the overview. -/
  members_all : (members none).members = d.members
  total_all : (members none).total = overview.totalMembers
  /-- The list of a state shows the members in that state, in their order, and counts as many as the
  overview. -/
  members_in : ∀ status, (members (some status)).members =
    d.members.filter fun m => decide (m.status = status)
  total_in : ∀ status, (members (some status)).total = overview.membersIn status
  /-- Every list counts what it shows. -/
  total_shown : ∀ narrowed, (members narrowed).total = (members narrowed).members.length
  /-- The lists of the states share out the whole list, and each member is on one of them. -/
  members_shared : Shares (AccountStatus.all.map fun status => (members (some status)).members)
    (members none).members
  members_once : ∀ m ∈ d.members, ∃! status, m ∈ (members (some status)).members
  /-- However the queue is narrowed, it counts as many open reports as the overview. -/
  open_eq : ∀ narrowed, (reports narrowed).openCount = overview.openReports
  /-- The queue of open reports shows as many. -/
  open_shown : (reports (some .opened)).reports.length = overview.openReports
  /-- The whole queue shows all reports, and the queue of a state those in that state, in their
  order. -/
  reports_all : (reports none).reports = d.reports
  reports_in : ∀ status, (reports (some status)).reports =
    d.reports.filter fun r => decide (r.status = status)
  /-- The queues of the states share out the whole queue. -/
  reports_shared : Shares (ReportStatus.all.map fun status => (reports (some status)).reports)
    (reports none).reports

namespace MembersPage

variable {actor : Actor} {d : Data}

theorem members_none : (MembersPage.of actor none d).members = d.members := by
  show d.members.filter (fun _ => true) = d.members
  exact List.filter_true _

theorem members_some (status : AccountStatus) :
    (MembersPage.of actor (some status) d).members = keyed Member.status d.members status := rfl

theorem total_eq_length (narrowed : Option AccountStatus) :
    (MembersPage.of actor narrowed d).total = (MembersPage.of actor narrowed d).members.length :=
  rfl

end MembersPage

namespace ModerationPage

variable {actor : Actor} {d : Data}

theorem reports_none : (ModerationPage.of actor none d).reports = d.reports := by
  show d.reports.filter (fun _ => true) = d.reports
  exact List.filter_true _

theorem reports_some (status : ReportStatus) :
    (ModerationPage.of actor (some status) d).reports = keyed Report.status d.reports status := rfl

end ModerationPage

/-- The overview counts the members that the list of a state shows. -/
theorem OverviewPage.membersIn_beside (revenue : Option Int64) (actor : Actor) (d : Data)
    (status : AccountStatus) :
    (OverviewPage.beside revenue actor d).membersIn status =
      (keyed Member.status d.members status).length := by
  cases status <;> exact List.countP_eq_length_filter

/-- The overview counts the reports that the queue of open ones shows. -/
theorem OverviewPage.openReports_beside (revenue : Option Int64) (actor : Actor) (d : Data) :
    (OverviewPage.beside revenue actor d).openReports =
      (keyed Report.status d.reports .opened).length :=
  List.countP_eq_length_filter

/-- Pages of the same data agree, whoever sees them, and whatever revenue stands on the overview. -/
theorem pagesAgree_of (revenue : Option Int64) (viewer lister handler : Actor) (d : Data) :
    PagesAgree d (.beside revenue viewer d) (fun narrowed => .of lister narrowed d)
      (fun narrowed => .of handler narrowed d) where
  total_eq := by
    have hshared : Shares (AccountStatus.all.map (keyed Member.status d.members)) d.members :=
      shares_keyed (by decide) fun m _ => m.status.mem_all
    have hlength := hshared.perm.length_eq
    have hactive := OverviewPage.membersIn_beside revenue viewer d .active
    have hbanned := OverviewPage.membersIn_beside revenue viewer d .banned
    simp only [AccountStatus.all, List.map_cons, List.map_nil, List.flatten_cons,
      List.flatten_nil, List.append_nil, List.length_append] at hlength
    simp only [OverviewPage.membersIn] at hactive hbanned
    rw [hactive, hbanned, hlength]
    rfl
  members_all := MembersPage.members_none
  total_all := by
    rw [MembersPage.total_eq_length, MembersPage.members_none]
    rfl
  members_in status := MembersPage.members_some status
  total_in status := (OverviewPage.membersIn_beside revenue viewer d status).symm
  total_shown _ := rfl
  members_shared := by
    rw [MembersPage.members_none]
    exact shares_keyed (by decide) fun m _ => m.status.mem_all
  members_once m hm :=
    ⟨m.status, mem_keyed.mpr ⟨hm, rfl⟩, fun _ hstatus => (mem_keyed.mp hstatus).2.symm⟩
  open_eq _ := rfl
  open_shown := (OverviewPage.openReports_beside revenue viewer d).symm
  reports_all := ModerationPage.reports_none
  reports_in status := ModerationPage.reports_some status
  reports_shared := by
    rw [ModerationPage.reports_none]
    exact shares_keyed (by decide) fun r _ => r.status.mem_all

theorem OverviewPage.mem_lastMonth? {actor : Actor} {d : Data} {month : RevenueMonth} :
    month ∈ lastMonth? actor d ↔
      .viewRevenue ∈ actor.role.grants ∧ month ∈ d.revenue.getLast? := by
  unfold lastMonth?
  by_cases hcan : actor.can .viewRevenue = true
  · rw [if_pos hcan, and_iff_right (Actor.can_eq_true.mp hcan)]
  · rw [if_neg hcan]
    exact iff_of_false (fun h => by cases h) fun h => hcan (Actor.can_eq_true.mpr h.1)

/-- The overview is there, unless the revenue that its viewer sees stops the program. -/
theorem OverviewPage.of_cases (overflow : Overflow) (actor : Actor) (d : Data) :
    ∃ revenue, of overflow actor d = .ok (beside revenue actor d) ∨
      overflow = .stops ∧ (∃ month ∈ lastMonth? actor d, ¬ Word.SumsFit month.sources) ∧
        of overflow actor d = .error .sumOutOfRange := by
  unfold of
  cases hmonth : lastMonth? actor d with
  | none => exact ⟨none, Or.inl rfl⟩
  | some month =>
    cases hsum : overflow.sum month.sources with
    | ok total =>
      refine ⟨some total, Or.inl ?_⟩
      show (overflow.sum month.sources).map some >>= _ = _
      rw [hsum]
      rfl
    | error abort =>
      obtain ⟨rfl, hstops, hfit⟩ := Overflow.sum_eq_error_iff.mp hsum
      refine ⟨none, Or.inr ⟨hstops, ⟨month, rfl, hfit⟩, ?_⟩⟩
      show (overflow.sum month.sources).map some >>= _ = _
      rw [hsum]
      rfl

/-- **The pages agree.**  Whoever may open the overview, the list of members and the queue of
reports is shown them, and they agree with each other about the data of the console.  Only the
overview of a viewer who sees the revenue may be missing, and only if the program stops at sums and
the revenue of the last month does not fit; the counts that would stand on it agree all the same. -/
theorem Console.pages_agree (c : Console) (overflow : Overflow) {viewer lister handler : Actor}
    (hviewer : .viewDashboard ∈ viewer.role.grants) (hlister : .viewUsers ∈ lister.role.grants)
    (hhandler : .viewModeration ∈ handler.role.grants) :
    ∃ overview members reports,
      (c.view overflow viewer .overview = .ok (.ok (.allowed (.overview overview))) ∨
        overflow = .stops ∧ .viewRevenue ∈ viewer.role.grants ∧
          (∃ month ∈ c.data.revenue.getLast?, ¬ Word.SumsFit month.sources) ∧
          c.view overflow viewer .overview = .error .sumOutOfRange) ∧
      (∀ narrowed, c.view overflow lister (.members narrowed) =
        .ok (.ok (.allowed (.members (members narrowed))))) ∧
      (∀ narrowed, c.view overflow handler (.moderation narrowed) =
        .ok (.ok (.allowed (.moderation (reports narrowed))))) ∧
      PagesAgree c.data overview members reports := by
  obtain ⟨revenue, hpage⟩ := OverviewPage.of_cases overflow viewer c.data
  refine ⟨_, _, _, ?_, fun narrowed => ?_, fun narrowed => ?_,
    pagesAgree_of revenue viewer lister handler c.data⟩
  · rw [Console.view_of_mem hviewer]
    unfold Console.render
    rcases hpage with hpage | ⟨hstops, ⟨month, hmonth, hfit⟩, hpage⟩
    · rw [hpage]
      exact Or.inl rfl
    · obtain ⟨hcan, hlast⟩ := OverviewPage.mem_lastMonth?.mp hmonth
      rw [hpage]
      exact Or.inr ⟨hstops, hcan, ⟨month, hlast, hfit⟩, rfl⟩
  · rw [Console.view_of_mem hlister]
    rfl
  · rw [Console.view_of_mem hhandler]
    rfl

/-- One operator of support opens all three pages of the sample. -/
theorem Console.pages_agree_sample :
    let c : Console := ⟨Sample.data, .idle ⟨1, []⟩ .log⟩
    let actor : Actor := ⟨.ofNat 11, .support⟩
    .viewDashboard ∈ actor.role.grants ∧ .viewUsers ∈ actor.role.grants ∧
    .viewModeration ∈ actor.role.grants ∧
    ∃ overview members reports,
      c.view .stops actor .overview = .ok (.ok (.allowed (.overview overview))) ∧
      PagesAgree Sample.data overview members reports ∧
      overview.totalMembers = 12 ∧ (members (some .banned)).total = 1 ∧
      (reports (some .opened)).reports.length = 5 := by
  intro c actor
  have hviewer : Permission.viewDashboard ∈ actor.role.grants := by decide
  have hlister : Permission.viewUsers ∈ actor.role.grants := by decide
  have hhandler : Permission.viewModeration ∈ actor.role.grants := by decide
  have hmay : Permission.viewRevenue ∉ actor.role.grants := by decide
  obtain ⟨overview, members, reports, hoverview, -, -, hagree⟩ :=
    c.pages_agree .stops hviewer hlister hhandler
  have hshown := hoverview.resolve_right fun hmissing => hmay hmissing.2.1
  have hmembers : (Sample.data.members.filter fun m => decide (m.status = .banned)).length = 1 := by
    decide +kernel
  have hreports : (Sample.data.reports.filter fun r => decide (r.status = .opened)).length = 5 := by
    decide +kernel
  refine ⟨hviewer, hlister, hhandler, overview, members, reports, hshown, hagree, ?_, ?_, ?_⟩
  · rw [← hagree.total_all, hagree.total_shown, hagree.members_all]
    decide +kernel
  · rw [hagree.total_shown, hagree.members_in]
    exact hmembers
  · rw [hagree.reports_in]
    exact hreports

end AdminConsole
