import AdminConsole.Proofs.Action.Frame
import AdminConsole.Proofs.Page.Sums
import AdminConsole.Proofs.Sight.View

/-! # What a page shows

A page shows things of at most one section, and says which actions there are on
them.  The page of a section that nothing narrows shows all of it.  Opening a
page that the role may open fails for three reasons only: there is no such
member, a figure on the page of the campaigns does not fit into a word, or the
program stops at sums and one on the page does not fit.
-/
namespace AdminConsole

/-! ## When a page cannot be shown -/

theorem Campaign.quotient_error {a b : Int64} {abort : Abort}
    (h : quotient a b = .error abort) : abort = .quotientOutOfRange := by
  unfold quotient at h
  split at h
  · cases h
    rfl
  · cases h

theorem CampaignRow.of_error {c : Campaign} {abort : Abort} (h : of c = .error abort) :
    abort = .quotientOutOfRange := by
  unfold of at h
  split at h
  · cases h
  · next e hcost =>
    obtain rfl := Except.error.inj h
    unfold Campaign.costPerClick at hcost
    by_cases hclicks : c.clicks = 0
    · rw [if_pos hclicks] at hcost
      cases hcost
    · rw [if_neg hclicks] at hcost
      exact Campaign.quotient_error (error_of_map hcost)

/-- The words that are added up on the page of a section. -/
def Data.sums (d : Data) : Section → List (List Int64)
  | .payments => [PaymentsPage.amountsIn .settled d.payments,
      PaymentsPage.amountsIn .refunded d.payments]
  | .campaigns => [d.campaigns.map (·.spend)]
  | _ => []

/-- Every sum on the page of a section fits into a word. -/
def Data.SumsFit (d : Data) (s : Section) : Prop := ∀ ws ∈ d.sums s, Word.SumsFit ws

variable {overflow : Overflow} {actor : Actor} {d : Data} {abort : Abort}

/-- The overview takes no sum but that of the month that its viewer sees. -/
theorem OverviewPage.of_stopsAtSums (overflow : Overflow) (actor : Actor) (d : Data) :
    StopsAtSums (of overflow actor d) :=
  (StopsAtSums.option_mapM (fun _ => .sum _ _) _).bind fun _ => .ok _

theorem EngagementPage.of_stopsAtSums (overflow : Overflow) (d : Data) :
    StopsAtSums (of overflow d) :=
  ((StopsAtSums.sum _ _).map _).bind fun _ => (StopsAtSums.sum _ _).bind fun _ =>
    (StopsAtSums.sum _ _).bind fun _ => (StopsAtSums.sum _ _).bind fun _ => .ok _

theorem RevenuePage.growth_stopsAtSums (overflow : Overflow) (previous latest : RevenueMonth) :
    StopsAtSums (growth overflow previous latest) := by
  refine (StopsAtSums.sum _ _).bind fun before => ?_
  split
  · exact (StopsAtSums.sum _ _).bind fun _ => (StopsAtSums.keep _ _ _).bind fun _ => .ok _
  · exact .ok none

theorem RevenuePage.of_stopsAtSums (overflow : Overflow) (d : Data) :
    StopsAtSums (of overflow d) := by
  refine StopsAtSums.bind ?_ fun _ => (StopsAtSums.mapM (fun _ => .sum _ _) _).bind fun _ =>
    (StopsAtSums.sum _ _).bind fun _ => .ok _
  unfold latestGrowth?
  split
  · exact growth_stopsAtSums overflow _ _
  · exact .ok none

/-- The page of the payments is there unless one of its sums stops the program. -/
theorem PaymentsPage.of_cases (overflow : Overflow) (actor : Actor) (d : Data) :
    ((overflow = .stops → d.SumsFit .payments) ∧ of overflow actor d = .ok {
      payments := d.payments
      settled := Word.cut (Word.total (amountsIn .settled d.payments))
      refunded := Word.cut (Word.total (amountsIn .refunded d.payments))
      controls := AdminConsole.controls actor Button.ofPayments }) ∨
    overflow = .stops ∧ ¬ d.SumsFit .payments ∧ of overflow actor d = .error .sumOutOfRange := by
  unfold of
  cases hsettled : overflow.sum (amountsIn .settled d.payments) with
  | error abort =>
    obtain ⟨rfl, hstops, hfit⟩ := Overflow.sum_eq_error_iff.mp hsettled
    exact Or.inr ⟨hstops, fun h => hfit (h _ List.mem_cons_self), rfl⟩
  | ok settled =>
    obtain ⟨rfl, hfirst⟩ := Overflow.sum_eq_ok_iff.mp hsettled
    cases hrefunded : overflow.sum (amountsIn .refunded d.payments) with
    | error abort =>
      obtain ⟨rfl, hstops, hfit⟩ := Overflow.sum_eq_error_iff.mp hrefunded
      exact Or.inr ⟨hstops, fun h => hfit (h _ (List.mem_cons_of_mem _ List.mem_cons_self)), rfl⟩
    | ok refunded =>
      obtain ⟨rfl, hsecond⟩ := Overflow.sum_eq_ok_iff.mp hrefunded
      refine Or.inl ⟨fun hstops => ?_, rfl⟩
      exact List.forall_mem_cons.mpr ⟨hfirst hstops, List.forall_mem_singleton.mpr (hsecond hstops)⟩

theorem AdsPage.of_error (h : of overflow actor d = .error abort) :
    abort = .quotientOutOfRange ∨
      abort = .sumOutOfRange ∧ overflow = .stops ∧ ¬ d.SumsFit .campaigns := by
  rcases error_of_bind h with hrows | ⟨rows, -, hrest⟩
  · obtain ⟨campaign, -, hrow⟩ := exists_error_of_mapM hrows
    exact Or.inl (CampaignRow.of_error hrow)
  · rcases error_of_bind hrest with hsum | ⟨total, -, hdone⟩
    · obtain ⟨rfl, hstops, hfit⟩ := Overflow.sum_eq_error_iff.mp hsum
      exact Or.inr ⟨rfl, hstops, fun hall => hfit (hall _ List.mem_cons_self)⟩
    · cases hdone

/-- A page gives up for two reasons only: a quotient or a sum that does not fit. -/
theorem Console.view_error {c : Console} {request : PageRequest}
    (h : c.view overflow actor request = .error abort) :
    abort = .quotientOutOfRange ∨ abort = .sumOutOfRange := by
  by_cases hp : request.permission ∈ actor.role.grants
  · rw [view_of_mem hp] at h
    have hrender := error_of_map h
    cases request with
    | overview => exact Or.inr (OverviewPage.of_stopsAtSums _ _ _ _ (error_of_map hrender))
    | engagement => exact Or.inr (EngagementPage.of_stopsAtSums _ _ _ (error_of_map hrender))
    | revenue => exact Or.inr (RevenuePage.of_stopsAtSums _ _ _ (error_of_map hrender))
    | payments =>
      have hpage := error_of_map hrender
      rcases PaymentsPage.of_cases overflow actor c.data with ⟨-, hof⟩ | ⟨-, -, hof⟩
      · rw [hof] at hpage
        cases hpage
      · rw [hof] at hpage
        exact Or.inr (Except.error.inj hpage).symm
    | ads => exact (AdsPage.of_error (error_of_map hrender)).imp_right And.left
    | member id =>
      simp only [Console.render] at hrender
      split at hrender <;> cases hrender
    | _ => cases hrender
  · rw [view_of_not_mem hp] at h
    cases h

/-! ## The rows of campaigns -/

theorem CampaignRow.of_eq_ok_iff {c : Campaign} {row : CampaignRow} :
    of c = .ok row ↔ row.campaign = c ∧ c.costPerClick = .ok row.costPerClick := by
  unfold of
  cases c.costPerClick with
  | error e => exact iff_of_false (fun h => by cases h) fun h => by cases h.2
  | ok cost =>
    constructor
    · rintro ⟨⟩
      exact ⟨rfl, rfl⟩
    · rintro ⟨rfl, hcost⟩
      cases hcost
      rfl

namespace AdsPage

variable {p : AdsPage}

/-- A page has the rows of its campaigns, and what is left of the sum of their spendings. -/
theorem of_ok (h : of overflow actor d = .ok p) :
    d.campaigns.mapM CampaignRow.of = .ok p.campaigns ∧
      p.totalSpend = Word.cut (Word.total (d.campaigns.map (·.spend))) ∧
      (overflow = .stops → d.SumsFit .campaigns) ∧
      p.controls = AdminConsole.controls actor Button.ofCampaigns := by
  obtain ⟨rows, hrows, hrest⟩ := exists_ok_of_bind h
  obtain ⟨total, hsum, hpage⟩ := exists_ok_of_bind hrest
  obtain ⟨rfl, hfit⟩ := Overflow.sum_eq_ok_iff.mp hsum
  obtain rfl := Except.ok.inj hpage
  exact ⟨hrows, rfl, fun hstops => List.forall_mem_singleton.mpr (hfit hstops), rfl⟩

/-- There is a page if and only if there are the rows of its campaigns, and their spendings do not
stop the program. -/
theorem exists_ok_iff : (∃ p, of overflow actor d = .ok p) ↔
    (∃ rows, d.campaigns.mapM CampaignRow.of = .ok rows) ∧
      (overflow = .stops → d.SumsFit .campaigns) := by
  constructor
  · rintro ⟨p, h⟩
    obtain ⟨hrows, -, hfit, -⟩ := of_ok h
    exact ⟨⟨p.campaigns, hrows⟩, hfit⟩
  · rintro ⟨⟨rows, hrows⟩, hfit⟩
    unfold of
    rw [hrows, Overflow.sum_of_fits fun hstops => hfit hstops _ List.mem_cons_self]
    exact ⟨_, rfl⟩

/-- A page has one row for each campaign, in their order. -/
theorem campaigns_eq (h : of overflow actor d = .ok p) :
    p.campaigns.map CampaignRow.campaign = d.campaigns :=
  map_of_mapM (fun _ _ hrow => (CampaignRow.of_eq_ok_iff.mp hrow).1) (of_ok h).1

end AdsPage

/-- A page shows the payments of the data. -/
theorem PaymentsPage.payments_of_ok {p : PaymentsPage} (h : of overflow actor d = .ok p) :
    p.payments = d.payments ∧ p.controls = AdminConsole.controls actor Button.ofPayments := by
  rcases of_cases overflow actor d with ⟨-, hof⟩ | ⟨-, -, hof⟩
  · obtain rfl := Except.ok.inj (hof.symm.trans h)
    exact ⟨rfl, rfl⟩
  · cases hof.symm.trans h

/-! ## The things on a page -/

/-- The section to which a thing belongs. -/
def Affected.place : Affected → Section
  | member _ => .members
  | report _ => .reports
  | payment _ => .payments
  | campaign _ => .campaigns
  | operator _ => .team
  | settings _ => .settings

/-- The things of a section on which there are actions. -/
def Data.things (d : Data) : Section → List Affected
  | .members => d.members.map .member
  | .reports => d.reports.map .report
  | .payments => d.payments.map .payment
  | .campaigns => d.campaigns.map .campaign
  | .team => d.team.map .operator
  | .settings => [.settings d.settings]
  | .engagement | .revenue | .totals => []

/-- The things that a page shows. -/
def Page.things : Page → List Affected
  | members p => p.members.map .member
  | member p => [.member p.member]
  | moderation p => p.reports.map .report
  | payments p => p.payments.map .payment
  | ads p => p.campaigns.map fun row => .campaign row.campaign
  | roles p => p.team.map .operator
  | settings p => [.settings p.settings]
  | overview _ | engagement _ | revenue _ | audit _ => []

/-- The section whose things are on the page that is asked for. -/
def PageRequest.section? : PageRequest → Option Section
  | members _ | member _ => some .members
  | moderation _ => some .reports
  | payments => some .payments
  | ads => some .campaigns
  | roles => some .team
  | settings => some .settings
  | overview | engagement | revenue | audit _ => none

/-- The page that shows a section whole. -/
def Section.page? : Section → Option PageRequest
  | members => some (.members none)
  | reports => some (.moderation none)
  | payments => some .payments
  | campaigns => some .ads
  | team => some .roles
  | settings => some .settings
  | engagement | revenue | totals => none

theorem place_of_mem_things {d : Data} {s : Section} {thing : Affected} (h : thing ∈ d.things s) :
    thing.place = s := by
  cases s with
  | settings =>
      rw [List.mem_singleton.mp h]
      rfl
  | engagement | revenue | totals => cases h
  | _ =>
      obtain ⟨x, -, rfl⟩ := List.mem_map.mp h
      rfl

namespace Console

variable {c : Console} {request : PageRequest} {page : Page}

/-- A page that is shown is rendered behind its gate. -/
theorem render_of_view (h : c.view overflow actor request = .ok (.ok (.allowed page))) :
    request.permission ∈ actor.role.grants ∧ c.render overflow actor request = .ok (.ok page) := by
  by_cases hp : request.permission ∈ actor.role.grants
  · refine ⟨hp, ?_⟩
    rw [view_of_mem hp] at h
    obtain ⟨outcome, hrender, hallowed⟩ := exists_ok_of_map h
    obtain ⟨shown, rfl, hpage⟩ := exists_ok_of_map hallowed
    rw [hrender, Gated.allowed.inj hpage]
  · rw [view_of_not_mem hp] at h
    cases h

/-- A page shows things of its own section only. -/
theorem things_of_render (h : c.render overflow actor request = .ok (.ok page)) :
    page.things ⊆ request.section?.elim [] c.data.things := by
  cases request with
  | members status =>
      cases h
      exact List.map_subset _ (List.filter_subset_self _)
  | member id =>
      simp only [render] at h
      split at h
      · next p hfound =>
        cases h
        obtain ⟨m, hm, rfl⟩ := Option.map_eq_some_iff.mp hfound
        have hmem : m ∈ c.data.members := List.mem_of_find?_eq_some hm
        exact List.cons_subset.mpr ⟨List.mem_map_of_mem hmem, List.nil_subset _⟩
      · cases h
  | moderation status =>
      cases h
      exact List.map_subset _ (List.filter_subset_self _)
  | ads =>
      obtain ⟨p, hp, hpage⟩ := exists_ok_of_map h
      cases hpage
      have hcampaigns := AdsPage.campaigns_eq hp
      show (p.campaigns.map fun row => Affected.campaign row.campaign) ⊆
        c.data.campaigns.map Affected.campaign
      rw [← hcampaigns, List.map_map]
      exact List.Subset.refl _
  | payments =>
      obtain ⟨p, hp, hpage⟩ := exists_ok_of_map h
      cases hpage
      show p.payments.map Affected.payment ⊆ c.data.payments.map Affected.payment
      rw [(PaymentsPage.payments_of_ok hp).1]
      exact List.Subset.refl _
  | overview | engagement | revenue =>
      obtain ⟨p, -, hpage⟩ := exists_ok_of_map h
      cases hpage
      exact List.nil_subset _
  | roles | settings | audit =>
      cases h
      exact List.Subset.refl _

/-- A page that nothing narrows shows the whole section. -/
theorem things_of_whole {s : Section} (hs : s.page? = some request)
    (h : c.render overflow actor request = .ok (.ok page)) : page.things = c.data.things s := by
  cases s with
  | members =>
      obtain rfl := Option.some.inj hs
      cases h
      exact congrArg (List.map Affected.member) (List.filter_eq_self.mpr fun _ _ => rfl)
  | reports =>
      obtain rfl := Option.some.inj hs
      cases h
      exact congrArg (List.map Affected.report) (List.filter_eq_self.mpr fun _ _ => rfl)
  | campaigns =>
      obtain rfl := Option.some.inj hs
      obtain ⟨p, hp, hpage⟩ := exists_ok_of_map h
      cases hpage
      show (p.campaigns.map fun row => Affected.campaign row.campaign) =
        c.data.campaigns.map Affected.campaign
      rw [← AdsPage.campaigns_eq hp, List.map_map]
      rfl
  | payments =>
      obtain rfl := Option.some.inj hs
      obtain ⟨p, hp, hpage⟩ := exists_ok_of_map h
      cases hpage
      exact congrArg (List.map Affected.payment) (PaymentsPage.payments_of_ok hp).1
  | team | settings =>
      obtain rfl := Option.some.inj hs
      cases h
      rfl
  | engagement | revenue | totals => cases hs

/-- The page of a section is shown to whoever may open it, unless a figure does not fit on it. -/
theorem render_page (c : Console) (overflow : Overflow) (actor : Actor) {s : Section}
    (hs : s.page? = some request) :
    (∃ page, c.render overflow actor request = .ok (.ok page)) ∨
      s = .campaigns ∧ c.render overflow actor request = .error .quotientOutOfRange ∨
      overflow = .stops ∧ ¬ c.data.SumsFit s ∧
        c.render overflow actor request = .error .sumOutOfRange := by
  cases s with
  | payments =>
      obtain rfl := Option.some.inj hs
      unfold render
      rcases PaymentsPage.of_cases overflow actor c.data with ⟨-, hof⟩ | ⟨hstops, hfit, hof⟩
      · rw [hof]
        exact Or.inl ⟨_, rfl⟩
      · rw [hof]
        exact Or.inr (Or.inr ⟨hstops, hfit, rfl⟩)
  | campaigns =>
      obtain rfl := Option.some.inj hs
      unfold render
      cases hads : AdsPage.of overflow actor c.data with
      | error abort =>
          rcases AdsPage.of_error hads with rfl | ⟨rfl, hstops, hfit⟩
          · exact Or.inr (Or.inl ⟨rfl, rfl⟩)
          · exact Or.inr (Or.inr ⟨hstops, hfit, rfl⟩)
      | ok p => exact Or.inl ⟨.ads p, rfl⟩
  | engagement | revenue | totals => cases hs
  | _ =>
      obtain rfl := Option.some.inj hs
      exact Or.inl ⟨_, rfl⟩

end Console

end AdminConsole
