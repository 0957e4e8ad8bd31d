import AdminConsole.Model.Sample
import AdminConsole.Proofs.Page.Render

/-! # The cost of a click

The page of the campaigns divides what a campaign spends by its clicks, which it
takes for a signed word.  While the clicks leave the sign free, the quotient is
the exact cost, cut to whole cents toward zero.  From then on the clicks count
as negative (`Campaign.divisor_of_le`): the quotient has the wrong sign, unless
it is zero, and it is zero only if the campaign spends less than its clicks are
short of the number of words (`neg_tdiv_eq_tdiv_iff`).  One quotient does not
fit into a word at all, and then there is no page.  Neither is there one if the
program stops at sums and the spendings do not fit.

So a campaign's row tells the cost if and only if the campaign is within
reach (`Campaign.tellsCost_iff`), and the page of campaigns that all are tells
every cost (`AdsPage.costs_within_reach`).
-/
namespace AdminConsole

/-! ## Quotients of integers -/

/-- A quotient cut toward zero, where the dividend is not negative: the greatest multiple of the
divisor up to it. -/
theorem eq_tdiv_iff_of_nonneg {a b q : Int} (ha : 0 ≤ a) (hb : 0 < b) :
    q = a.tdiv b ↔ 0 ≤ q ∧ q * b ≤ a ∧ a < (q + 1) * b := by
  rw [Int.tdiv_eq_ediv_of_nonneg ha, ← Int.le_ediv_iff_mul_le hb, ← Int.ediv_lt_iff_lt_mul hb]
  have hquotient : 0 ≤ a / b := Int.ediv_nonneg ha (Int.le_of_lt hb)
  omega

/-- Two quotients of one dividend are opposite to each other only where both are zero. -/
theorem neg_tdiv_eq_tdiv_iff {a : Int} {m n : Nat} (hm : 0 < m) (hmn : m ≤ n) :
    -a.tdiv m = a.tdiv n ↔ a.natAbs < m := by
  have hle : a.natAbs / n ≤ a.natAbs / m := Nat.div_le_div_left hmn hm
  have hzero : a.natAbs / m = 0 ↔ a.natAbs < m := Nat.div_eq_zero_iff_lt hm
  obtain ⟨k, rfl | rfl⟩ := a.eq_nat_or_neg
  · rw [Int.natAbs_natCast] at hle hzero ⊢
    rw [← Int.ofNat_tdiv, ← Int.ofNat_tdiv]
    generalize k / m = u at *
    generalize k / n = v at *
    omega
  · rw [Int.natAbs_neg, Int.natAbs_natCast] at hle hzero ⊢
    rw [Int.neg_tdiv, Int.neg_tdiv, ← Int.ofNat_tdiv, ← Int.ofNat_tdiv]
    generalize k / m = u at *
    generalize k / n = v at *
    omega

namespace Campaign

variable {c : Campaign} {cost : Option Int64}

/-! ## The divisor -/

/-- The number that the clicks are taken for when the spending is divided by them. -/
def divisor (c : Campaign) : Int := c.clicks.toInt64.toInt

theorem divisor_eq (c : Campaign) : c.divisor =
    if 2 * c.clicks.toNat < UInt64.size then (c.clicks.toNat : Int)
    else (c.clicks.toNat : Int) - (UInt64.size : Int) :=
  c.clicks.toBitVec.toInt_eq_toNat_cond

theorem divisor_of_lt (h : 2 * c.clicks.toNat < UInt64.size) : c.divisor = c.clicks.toNat := by
  rw [divisor_eq, if_pos h]

/-- Many clicks count as negative. -/
theorem divisor_of_le (h : UInt64.size ≤ 2 * c.clicks.toNat) :
    c.divisor = -((UInt64.size - c.clicks.toNat : Nat) : Int) := by
  have hlt : c.clicks.toNat < UInt64.size := c.clicks.toNat_lt_size
  rw [divisor_eq, if_neg (Nat.not_lt.mpr h)]
  omega

/-- The spending is the least there is and the clicks are the most there are, which count as minus
one. -/
def Overflows (c : Campaign) : Prop :=
  c.spend = Int64.minValue ∧ c.clicks.toNat + 1 = UInt64.size

theorem overflows_iff (c : Campaign) :
    c.Overflows ↔ c.spend = Int64.minValue ∧ c.clicks.toInt64 = -1 := by
  have hlt : c.clicks.toNat < UInt64.size := c.clicks.toNat_lt_size
  have hsize : 1 < UInt64.size := by decide
  have hone : (-1 : Int64).toInt = -1 := by decide
  have hclicks : c.clicks.toInt64 = -1 ↔ c.divisor = -1 := by
    rw [← Int64.toInt_inj, hone]
    rfl
  rw [Overflows, hclicks, divisor_eq]
  refine and_congr_right fun _ => ?_
  split <;> omega

theorem not_overflows_of_clicks_eq_zero (h : c.clicks = 0) : ¬ c.Overflows := by
  rintro ⟨-, hclicks⟩
  rw [h] at hclicks
  exact absurd hclicks (by decide)

theorem quotient_of_overflows (h : c.Overflows) :
    quotient c.spend c.clicks.toInt64 = .error .quotientOutOfRange := by
  unfold quotient
  rw [if_pos (c.overflows_iff.mp h)]

theorem quotient_of_not_overflows (h : ¬ c.Overflows) :
    ∃ q, quotient c.spend c.clicks.toInt64 = .ok q ∧ q.toInt = c.spend.toInt.tdiv c.divisor := by
  rw [overflows_iff] at h
  refine ⟨c.spend / c.clicks.toInt64, ?_, ?_⟩
  · unfold quotient
    rw [if_neg h]
  · rcases not_and_or.mp h with hspend | hclicks
    · exact Int64.toInt_div_of_ne_left _ _ hspend
    · exact Int64.toInt_div_of_ne_right _ _ hclicks

theorem costPerClick_of_overflows (h : c.Overflows) :
    c.costPerClick = .error .quotientOutOfRange := by
  have hclicks : c.clicks ≠ 0 := fun hzero => not_overflows_of_clicks_eq_zero hzero h
  unfold costPerClick
  rw [if_neg hclicks, quotient_of_overflows h]
  rfl

/-- The cost of a click is missing where there are no clicks, and a quotient elsewhere. -/
theorem costPerClick_of_not_overflows (h : ¬ c.Overflows) : ∃ cost, c.costPerClick = .ok cost ∧
    (cost = none ↔ c.clicks = 0) ∧ ∀ q ∈ cost, q.toInt = c.spend.toInt.tdiv c.divisor := by
  unfold costPerClick
  by_cases hclicks : c.clicks = 0
  · rw [if_pos hclicks]
    exact ⟨none, rfl, iff_of_true rfl hclicks, fun q hq => by cases hq⟩
  · obtain ⟨q, hquotient, hq⟩ := quotient_of_not_overflows h
    rw [if_neg hclicks, hquotient]
    refine ⟨some q, rfl, iff_of_false (Option.some_ne_none q) hclicks, ?_⟩
    rintro _ ⟨⟩
    exact hq

theorem of_costPerClick (h : c.costPerClick = .ok cost) :
    (cost = none ↔ c.clicks = 0) ∧ ∀ q ∈ cost, q.toInt = c.spend.toInt.tdiv c.divisor := by
  have hfits : ¬ c.Overflows := by
    intro hoverflows
    rw [costPerClick_of_overflows hoverflows] at h
    cases h
  obtain ⟨_, hcost, hfacts⟩ := costPerClick_of_not_overflows hfits
  rw [h] at hcost
  cases hcost
  exact hfacts

/-! ## What the cost should be -/

/-- The cost is the spending divided by the clicks, in exact integers: none where there are no
clicks, cut to whole cents, and toward zero where the spending is negative. -/
structure TellsCost (c : Campaign) (cost : Option Int64) : Prop where
  none_iff : cost = none ↔ c.clicks = 0
  of_nonneg : ∀ q ∈ cost, 0 ≤ c.spend.toInt → 0 ≤ q.toInt ∧
    q.toInt * c.clicks.toNat ≤ c.spend.toInt ∧ c.spend.toInt < (q.toInt + 1) * c.clicks.toNat
  of_neg : ∀ q ∈ cost, c.spend.toInt < 0 → q.toInt = c.spend.toInt.tdiv c.clicks.toNat

/-- The clicks leave the sign free, or the campaign spends less than they are short of the number of
words. -/
def WithinReach (c : Campaign) : Prop :=
  2 * c.clicks.toNat < UInt64.size ∨ c.spend.toInt.natAbs + c.clicks.toNat < UInt64.size

theorem not_overflows_of_withinReach (h : c.WithinReach) : ¬ c.Overflows := by
  rintro ⟨hspend, hclicks⟩
  have hleast : (Int64.minValue.toInt).natAbs = UInt64.size / 2 := by decide
  have hsize : 2 ≤ UInt64.size / 2 := by decide
  unfold WithinReach at h
  rw [hspend, hleast] at h
  omega

/-- Both cases of a cost are the quotient that is cut toward zero. -/
theorem tellsCost_iff_tdiv (hnone : cost = none ↔ c.clicks = 0) :
    c.TellsCost cost ↔ ∀ q ∈ cost, q.toInt = c.spend.toInt.tdiv c.clicks.toNat := by
  have hpos : ∀ q ∈ cost, (0 : Int) < c.clicks.toNat := by
    rintro q ⟨⟩
    have hclicks : c.clicks ≠ 0 := fun h => Option.some_ne_none q (hnone.mpr h)
    have hnat : c.clicks.toNat ≠ 0 := fun h => hclicks (UInt64.toNat_inj.mp h)
    omega
  constructor
  · intro h q hq
    by_cases hspend : 0 ≤ c.spend.toInt
    · exact (eq_tdiv_iff_of_nonneg hspend (hpos q hq)).mpr (h.of_nonneg q hq hspend)
    · exact h.of_neg q hq (Int.not_le.mp hspend)
  · intro h
    exact {
      none_iff := hnone
      of_nonneg := fun q hq hspend => (eq_tdiv_iff_of_nonneg hspend (hpos q hq)).mp (h q hq)
      of_neg := fun q hq _ => h q hq }

/-- The quotient by what the clicks are taken for is the quotient by the clicks for a campaign
within reach, and for no other. -/
theorem tdiv_divisor_eq_iff (c : Campaign) :
    c.spend.toInt.tdiv c.divisor = c.spend.toInt.tdiv c.clicks.toNat ↔ c.WithinReach := by
  unfold WithinReach
  by_cases hlt : 2 * c.clicks.toNat < UInt64.size
  · rw [divisor_of_lt hlt]
    exact iff_of_true rfl (Or.inl hlt)
  · have hclicks : c.clicks.toNat < UInt64.size := c.clicks.toNat_lt_size
    have hshort : UInt64.size - c.clicks.toNat ≤ c.clicks.toNat := by omega
    rw [divisor_of_le (Nat.not_lt.mp hlt), Int.tdiv_neg,
      neg_tdiv_eq_tdiv_iff (Nat.sub_pos_of_lt hclicks) hshort]
    omega

/-- **A campaign is shown its cost of a click if and only if it is within reach.** -/
theorem tellsCost_iff (h : c.costPerClick = .ok cost) : c.TellsCost cost ↔ c.WithinReach := by
  obtain ⟨hnone, hquotient⟩ := of_costPerClick h
  rw [tellsCost_iff_tdiv hnone, ← tdiv_divisor_eq_iff]
  cases cost with
  | none =>
    -- Without clicks there is no quotient, and both divisors are zero.
    have hclicks : c.clicks = 0 := hnone.mp rfl
    refine iff_of_true (fun q hq => by cases hq) ?_
    unfold divisor
    rw [hclicks]
    rfl
  | some q =>
    have hq : q.toInt = c.spend.toInt.tdiv c.divisor := hquotient q rfl
    rw [← hq]
    exact ⟨fun hall => hall q rfl, fun hq p hp => Option.some.inj hp ▸ hq⟩

end Campaign

/-! ## The page -/

/-- The row of a campaign is there if and only if the cost of a click fits into a word. -/
theorem CampaignRow.exists_of_iff {c : Campaign} : (∃ row, of c = .ok row) ↔ ¬ c.Overflows := by
  constructor
  · rintro ⟨row, hrow⟩ hoverflows
    have hcost := (of_eq_ok_iff.mp hrow).2
    rw [Campaign.costPerClick_of_overflows hoverflows] at hcost
    cases hcost
  · intro hfits
    obtain ⟨cost, hcost, -⟩ := Campaign.costPerClick_of_not_overflows hfits
    exact ⟨⟨c, cost⟩, of_eq_ok_iff.mpr ⟨rfl, hcost⟩⟩

namespace AdsPage

variable {overflow : Overflow} {actor : Actor} {d : Data} {p : AdsPage}

theorem exists_of_iff : (∃ p, of overflow actor d = .ok p) ↔
    (∀ c ∈ d.campaigns, ¬ c.Overflows) ∧ (overflow = .stops → d.SumsFit .campaigns) := by
  rw [exists_ok_iff, exists_mapM_ok_iff]
  refine and_congr_left fun _ => ?_
  exact forall_congr' fun c => forall_congr' fun _ => CampaignRow.exists_of_iff

/-- The rows come before the sum, so a quotient that does not fit is what stops the page. -/
theorem of_eq_quotientOutOfRange_iff :
    of overflow actor d = .error .quotientOutOfRange ↔ ∃ c ∈ d.campaigns, c.Overflows := by
  constructor
  · intro h
    by_contra hnone
    push Not at hnone
    obtain ⟨rows, hrows⟩ :=
      exists_mapM_ok_iff.mpr fun c hc => CampaignRow.exists_of_iff.mpr (hnone c hc)
    unfold of at h
    rw [hrows] at h
    rcases error_of_bind h with hfail | ⟨_, -, hrest⟩
    · cases hfail
    · rcases error_of_bind hrest with hsum | ⟨_, -, hdone⟩
      · cases (Overflow.sum_eq_error_iff.mp hsum).1
      · cases hdone
  · rintro ⟨c, hc, hoverflows⟩
    cases hrows : d.campaigns.mapM CampaignRow.of with
    | error abort =>
      obtain ⟨_, -, hrow⟩ := exists_error_of_mapM hrows
      unfold of
      rw [hrows, CampaignRow.of_error hrow]
      rfl
    | ok rows =>
      exact absurd hoverflows
        (CampaignRow.exists_of_iff.mp (exists_mapM_ok_iff.mp ⟨rows, hrows⟩ c hc))

theorem of_eq_sumOutOfRange_iff : of overflow actor d = .error .sumOutOfRange ↔
    (∀ c ∈ d.campaigns, ¬ c.Overflows) ∧ overflow = .stops ∧ ¬ d.SumsFit .campaigns := by
  constructor
  · intro h
    rcases of_error h with hquotient | ⟨-, hstops, hfit⟩
    · cases hquotient
    · refine ⟨fun c hc hoverflows => ?_, hstops, hfit⟩
      cases h.symm.trans (of_eq_quotientOutOfRange_iff.mpr ⟨c, hc, hoverflows⟩)
  · rintro ⟨hcosts, hstops, hfit⟩
    cases hpage : of overflow actor d with
    | error abort =>
      rcases of_error hpage with rfl | ⟨rfl, -, -⟩
      · obtain ⟨c, hc, hoverflows⟩ := of_eq_quotientOutOfRange_iff.mp hpage
        exact absurd hoverflows (hcosts c hc)
      · rfl
    | ok p => exact absurd ((exists_of_iff.mp ⟨p, hpage⟩).2 hstops) hfit

/-- The costs that a page shows are those of its campaigns. -/
theorem costPerClick_of_mem (h : of overflow actor d = .ok p) {row : CampaignRow}
    (hrow : row ∈ p.campaigns) : row.campaign.costPerClick = .ok row.costPerClick := by
  obtain ⟨c, -, hc⟩ := exists_mem_of_mapM (of_ok h).1 hrow
  obtain ⟨rfl, hcost⟩ := CampaignRow.of_eq_ok_iff.mp hc
  exact hcost

/-- **The page of the campaigns tells the cost of a click within reach.**  There is no page only if
a quotient does not fit into a word, or the program stops at sums and the spendings do not fit.  A
page has one row for each campaign, in their order, with what is left of the sum of the spendings,
and shows the spending divided by what the clicks are taken for, which is the cost of a click for a
campaign within reach and for no other.  So the page of campaigns within reach, if their spendings
do not stop the program, is there and tells every cost. -/
theorem costs_within_reach (overflow : Overflow) (actor : Actor) (d : Data) :
    ((∃ p, of overflow actor d = .ok p) ↔
      (∀ c ∈ d.campaigns, ¬ c.Overflows) ∧ (overflow = .stops → d.SumsFit .campaigns)) ∧
    (of overflow actor d = .error .quotientOutOfRange ↔ ∃ c ∈ d.campaigns, c.Overflows) ∧
    (of overflow actor d = .error .sumOutOfRange ↔
      (∀ c ∈ d.campaigns, ¬ c.Overflows) ∧ overflow = .stops ∧ ¬ d.SumsFit .campaigns) ∧
    (∀ p, of overflow actor d = .ok p → p.campaigns.map CampaignRow.campaign = d.campaigns ∧
      p.totalSpend = Int64.ofInt (Word.total (d.campaigns.map (·.spend))) ∧
      ∀ row ∈ p.campaigns,
        (∀ q ∈ row.costPerClick,
          q.toInt = row.campaign.spend.toInt.tdiv row.campaign.divisor) ∧
        (row.campaign.TellsCost row.costPerClick ↔ row.campaign.WithinReach)) ∧
    ((∀ c ∈ d.campaigns, c.WithinReach) → (overflow = .stops → d.SumsFit .campaigns) →
      ∃ p, of overflow actor d = .ok p ∧ p.campaigns.map CampaignRow.campaign = d.campaigns ∧
        ∀ row ∈ p.campaigns, row.campaign.TellsCost row.costPerClick) := by
  refine ⟨exists_of_iff, of_eq_quotientOutOfRange_iff, of_eq_sumOutOfRange_iff,
    fun p hp => ⟨campaigns_eq hp, (of_ok hp).2.1, fun row hrow => ?_⟩, fun hreach hfit => ?_⟩
  · have hcost := costPerClick_of_mem hp hrow
    exact ⟨(Campaign.of_costPerClick hcost).2, Campaign.tellsCost_iff hcost⟩
  · obtain ⟨p, hp⟩ := exists_of_iff.mpr
      ⟨fun c hc => Campaign.not_overflows_of_withinReach (hreach c hc), hfit⟩
    refine ⟨p, hp, campaigns_eq hp, fun row hrow => ?_⟩
    have hmem : row.campaign ∈ d.campaigns := campaigns_eq hp ▸ List.mem_map_of_mem hrow
    exact (Campaign.tellsCost_iff (costPerClick_of_mem hp hrow)).mpr (hreach _ hmem)

/-- With as many clicks as there can be, a campaign that spends five cents is shown a click that
costs minus five, and one that spends the least there is stops the page.  Two campaigns with one
click each are within reach, and stop the page too if they spend the most there is. -/
theorem many_clicks_cost_less :
    let campaign (clicks : UInt64) (spend : Int64) : Campaign :=
      ⟨.ofNat 1, "Spring", "discover_feed", .active, 1, clicks, 0, spend⟩
    let data (cs : List Campaign) : Data := { Sample.data with campaigns := cs }
    let most : UInt64 := 18446744073709551615
    (∀ overflow, (∃ p, of overflow ⟨.ofNat 11, .owner⟩ (data [campaign most 5]) = .ok p ∧
        p.campaigns = [⟨campaign most 5, some (-5)⟩] ∧
        ¬ (campaign most 5).TellsCost (some (-5))) ∧
      of overflow ⟨.ofNat 11, .owner⟩ (data [campaign most Int64.minValue]) =
        .error .quotientOutOfRange) ∧
    (campaign 1 Int64.maxValue).WithinReach ∧
    of .stops ⟨.ofNat 11, .owner⟩ (data [campaign 1 Int64.maxValue, campaign 1 Int64.maxValue]) =
      .error .sumOutOfRange := by
  intro campaign data most
  refine ⟨fun overflow => ⟨?_, ?_⟩, Or.inl (by decide), ?_⟩
  · have hcost : ¬ (campaign most 5).TellsCost (some (-5)) := fun h =>
      absurd (h.of_nonneg (-5) rfl (by decide)).1 (by decide)
    cases overflow with
    | wraps => exact ⟨_, rfl, by decide, hcost⟩
    | stops => exact ⟨_, rfl, by decide, hcost⟩
  · exact of_eq_quotientOutOfRange_iff.mpr ⟨_, List.mem_singleton.mpr rfl, rfl, rfl⟩
  · refine of_eq_sumOutOfRange_iff.mpr ⟨?_, rfl, fun hfit => ?_⟩
    · intro c hc hoverflows
      obtain rfl : c = campaign 1 Int64.maxValue := by simpa [data] using hc
      exact absurd hoverflows.1 (by decide)
    · exact absurd (hfit _ List.mem_cons_self) (by decide)

end AdsPage

end AdminConsole
