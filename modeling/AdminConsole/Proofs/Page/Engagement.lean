import AdminConsole.Model.Sample
import AdminConsole.Page.Analytics
import AdminConsole.Proofs.Page.Sums
import Mathlib.Algebra.Order.BigOperators.Group.List
import Mathlib.Algebra.Order.Floor.Semifield
import Mathlib.Data.List.MinMax
import Mathlib.Data.Rat.Floor

/-! # The figures of engagement

The page of engagement adds up in words of 64 bits what single days count in
words of 32 bits.  A sum is at most as many greatest counts as there are days,
so with fewer days than there are words of 32 bits no addition leaves the words
(`EngagementPage.sumOf_add_lt`): nothing stops the program there, and what is
added up is the exact sum (`EngagementPage.exists_sumOf`).

The same bound, shared out among the days, brings the mean back to the width of
a count: the greatest mean that is shown is never shown for a greater one
(`EngagementPage.exactMean_le_greatest`).
-/
namespace AdminConsole.EngagementPage

variable {count : EngagementDay → UInt32} {days : List EngagementDay}

/-! ## Sums -/

/-- The exact sum of a count over some days. -/
def exactSum (count : EngagementDay → UInt32) (days : List EngagementDay) : Nat :=
  (days.map fun day => (count day).toNat).sum

theorem exactSum_concat (count : EngagementDay → UInt32) (days : List EngagementDay)
    (day : EngagementDay) :
    exactSum count (days ++ [day]) = exactSum count days + (count day).toNat := by
  unfold exactSum
  rw [List.map_append, List.sum_append, List.map_singleton, List.sum_singleton]

/-- A bound on the count of every day, times the number of days, bounds the sum. -/
theorem exactSum_le {bound : Nat} (h : ∀ day ∈ days, (count day).toNat ≤ bound) :
    exactSum count days ≤ days.length * bound := by
  have hsum := List.sum_le_card_nsmul _ bound (List.forall_mem_map.mpr h)
  rwa [List.length_map, Nat.nsmul_eq_mul] at hsum

theorem le_exactSum {bound : Nat} (h : ∀ day ∈ days, bound ≤ (count day).toNat) :
    days.length * bound ≤ exactSum count days := by
  have hsum := List.card_nsmul_le_sum _ bound (List.forall_mem_map.mpr h)
  rwa [List.length_map, Nat.nsmul_eq_mul] at hsum

/-- The sum over not too many days fits into a word. -/
theorem exactSum_lt (h : days.length < UInt32.size) : exactSum count days < UInt64.size := by
  have hbound : exactSum count days ≤ days.length * (UInt32.size - 1) :=
    exactSum_le fun day _ => Nat.le_sub_one_of_lt (count day).toNat_lt_size
  have hproduct : days.length * (UInt32.size - 1) ≤ UInt32.size * (UInt32.size - 1) :=
    Nat.mul_le_mul_right _ (Nat.le_of_lt h)
  have hsize : UInt32.size * (UInt32.size - 1) < UInt64.size := by decide
  omega

/-- The words that are added up stand for the counts of the days. -/
theorem total_counts (count : EngagementDay → UInt32) (days : List EngagementDay) :
    Word.total (days.map fun day => (count day).toUInt64) = (exactSum count days : Int) := by
  induction days with
  | nil => rfl
  | cons day days ih =>
    have hsum : exactSum count (day :: days) = (count day).toNat + exactSum count days :=
      List.sum_cons
    have hnumber : Word.number (count day).toUInt64 = ((count day).toNat : Int) := by
      show (((count day).toUInt64.toNat : Nat) : Int) = _
      rw [UInt32.toNat_toUInt64]
    rw [List.map_cons, Word.total_cons, ih, hsum, hnumber, Nat.cast_add]

theorem fits_of_lt {n : Nat} (h : n < UInt64.size) : Word.Fits UInt64 n := by
  have hcut : ((n : Int) % 2 ^ 64).toNat % 2 ^ 64 = n := by
    have hsize : n < 2 ^ 64 := h
    omega
  show ((UInt64.ofInt n).toNat : Int) = n
  rw [UInt64.ofInt, UInt64.toNat_ofNat', hcut]

/-- No sum of a count on the way over the days leaves the words. -/
theorem sumsFit_counts (count : EngagementDay → UInt32) (h : days.length < UInt32.size) :
    Word.SumsFit (days.map fun day => (count day).toUInt64) := by
  intro part hpart
  obtain ⟨before, hbefore, rfl⟩ := List.prefix_map_iff.mp hpart
  rw [total_counts]
  exact fits_of_lt (exactSum_lt (hbefore.length_le.trans_lt h))

/-- **Nothing stops the sum of a count, and it is the exact one.** -/
theorem exists_sumOf (overflow : Overflow) (count : EngagementDay → UInt32)
    (h : days.length < UInt32.size) :
    ∃ sum, sumOf overflow count days = .ok sum ∧ sum.toNat = exactSum count days := by
  refine ⟨_, Overflow.sum_of_fits fun _ => sumsFit_counts count h, ?_⟩
  have hfits := (sumsFit_counts count h).fits
  rw [total_counts] at hfits ⊢
  exact Int.ofNat.inj hfits

/-- No addition on the way to the sum leaves the words. -/
theorem sumOf_add_lt (overflow : Overflow) (count : EngagementDay → UInt32)
    (h : days.length < UInt32.size) {before after : List EngagementDay} {day : EngagementDay}
    (hsplit : days = before ++ day :: after) :
    ∃ sum, sumOf overflow count before = .ok sum ∧
      sum.toNat + (count day).toNat < UInt64.size := by
  have hbefore : (before ++ [day]).length < UInt32.size := by
    rw [hsplit, List.length_append, List.length_cons] at h
    rw [List.length_append, List.length_singleton]
    omega
  have hlength : before.length < UInt32.size := by
    rw [List.length_append] at hbefore
    omega
  obtain ⟨sum, hsum, hexact⟩ := exists_sumOf overflow count hlength
  refine ⟨sum, hsum, ?_⟩
  rw [hexact, ← exactSum_concat]
  exact exactSum_lt hbefore

/-! ## The mean -/

/-- The mean count of active users, cut to a whole number, over exact numbers. -/
def exactMean (days : List EngagementDay) : Nat :=
  exactSum (·.activeUsers) days / max days.length 1

theorem toNat_sharers (h : days.length < UInt32.size) :
    (sharers days).toNat = max days.length 1 := by
  have hsize : UInt32.size < UInt64.size := by decide
  have hone : 1 < UInt64.size := by decide
  unfold sharers
  rw [UInt64.toNat_ofNat']
  exact Nat.mod_eq_of_lt (max_lt (h.trans hsize) hone)

theorem exists_meanActiveUsers (overflow : Overflow) (h : days.length < UInt32.size) :
    ∃ mean, meanActiveUsers overflow days = .ok mean ∧ mean.toNat = exactMean days := by
  obtain ⟨sum, hsum, hexact⟩ := exists_sumOf overflow (·.activeUsers) h
  refine ⟨sum / sharers days, ?_, ?_⟩
  · unfold meanActiveUsers
    rw [hsum]
    rfl
  · rw [UInt64.toNat_div, hexact, toNat_sharers h, exactMean]

/-- A bound on the count of every day bounds the mean. -/
theorem exactMean_le {bound : Nat} (hbound : ∀ day ∈ days, day.activeUsers.toNat ≤ bound) :
    exactMean days ≤ bound := by
  refine Nat.div_le_of_le_mul ((exactSum_le hbound).trans ?_)
  exact Nat.mul_le_mul_right _ (le_max_left _ _)

theorem le_exactMean {bound : Nat} (hdays : days ≠ [])
    (hbound : ∀ day ∈ days, bound ≤ day.activeUsers.toNat) : bound ≤ exactMean days := by
  have hpos : 1 ≤ days.length := List.length_pos_iff.mpr hdays
  rw [exactMean, max_eq_left hpos, Nat.le_div_iff_mul_le hpos, Nat.mul_comm]
  exact le_exactSum hbound

/-- **The mean is as narrow as a count.** -/
theorem exactMean_le_greatest (days : List EngagementDay) :
    exactMean days ≤ greatestMean.toUInt64.toNat :=
  exactMean_le fun day _ => Nat.le_sub_one_of_lt day.activeUsers.toNat_lt_size

/-- A mean that is not too great is shown as it is. -/
theorem toNat_shownMean {mean : UInt64} (h : mean ≤ greatestMean.toUInt64) :
    (shownMean mean).toNat = mean.toNat := by
  have hlt : mean.toNat < UInt32.size := Nat.lt_of_le_pred (by decide) (UInt64.le_iff_toNat_le.mp h)
  unfold shownMean
  rw [if_pos h, UInt64.toNat_toUInt32]
  exact Nat.mod_eq_of_lt hlt

/-! ## The page -/

/-- The computation of a page stays within its words: no addition leaves them, the sum is shared out
among one at least, and the mean is not cut to the greatest that is shown. -/
structure Within (overflow : Overflow) (days : List EngagementDay) : Prop where
  add_lt : ∀ (count : EngagementDay → UInt32) (before after : List EngagementDay)
    (day : EngagementDay), days = before ++ day :: after →
      ∃ sum, sumOf overflow count before = .ok sum ∧
        sum.toNat + (count day).toNat < UInt64.size
  sharers_ne : sharers days ≠ 0
  mean_le : ∃ mean, meanActiveUsers overflow days = .ok mean ∧ mean ≤ greatestMean.toUInt64

/-- The page tells the days, their exact sums and their mean. -/
structure Tells (p : EngagementPage) (days : List EngagementDay) : Prop where
  series : p.series = days
  newSignups : p.totalNewSignups.toNat = exactSum (·.newSignups) days
  matched : p.totalMatched.toNat = exactSum (·.matched) days
  messages : p.totalMessages.toNat = exactSum (·.messagesSent) days
  /-- The mean is the greatest whole number up to the exact one. -/
  mean : p.averageActiveUsers.toNat =
    ⌊(exactSum (·.activeUsers) days : ℚ) / (days.length : ℚ)⌋₊
  mean_nil : days = [] → p.averageActiveUsers = 0
  /-- The mean of some days lies between the least and the greatest count. -/
  mean_between : days ≠ [] → ∃ least ∈ days, ∃ greatest ∈ days,
    (∀ day ∈ days, least.activeUsers ≤ day.activeUsers ∧
      day.activeUsers ≤ greatest.activeUsers) ∧
    least.activeUsers ≤ p.averageActiveUsers ∧ p.averageActiveUsers ≤ greatest.activeUsers

theorem within (overflow : Overflow) (h : days.length < UInt32.size) : Within overflow days where
  add_lt count _ _ _ hsplit := sumOf_add_lt overflow count h hsplit
  sharers_ne hzero := by
    have hsharers := toNat_sharers h
    rw [hzero] at hsharers
    have hone : 1 ≤ max days.length 1 := le_max_right _ _
    exact absurd (hsharers ▸ hone) (by decide)
  mean_le := by
    obtain ⟨mean, hmean, hexact⟩ := exists_meanActiveUsers overflow h
    refine ⟨mean, hmean, UInt64.le_iff_toNat_le.mpr ?_⟩
    rw [hexact]
    exact exactMean_le_greatest days

/-- A day with the least and a day with the greatest count of active users. -/
theorem exists_extremes (hdays : days ≠ []) : ∃ least ∈ days, ∃ greatest ∈ days,
    ∀ day ∈ days, least.activeUsers ≤ day.activeUsers ∧
      day.activeUsers ≤ greatest.activeUsers := by
  let users : EngagementDay → Nat := fun day => day.activeUsers.toNat
  obtain ⟨least, hleast⟩ : ∃ least, least ∈ days.argmin users :=
    Option.ne_none_iff_exists'.mp fun h => hdays (List.argmin_eq_none.mp h)
  obtain ⟨greatest, hgreatest⟩ : ∃ greatest, greatest ∈ days.argmax users :=
    Option.ne_none_iff_exists'.mp fun h => hdays (List.argmax_eq_none.mp h)
  refine ⟨least, List.argmin_mem hleast, greatest, List.argmax_mem hgreatest, fun day hday => ?_⟩
  have hfrom : users least ≤ users day := List.le_of_mem_argmin hday hleast
  have hto : users day ≤ users greatest := List.le_of_mem_argmax hday hgreatest
  exact ⟨UInt32.le_iff_toNat_le.mpr hfrom, UInt32.le_iff_toNat_le.mpr hto⟩

/-- **The figures of engagement are exact.**  For fewer days than there are words of 32 bits the
page is computed without leaving its words, whatever would become of a sum that does; so it is
there, and tells the days with their exact sums and the mean, cut to a whole number, which lies
between the least and the greatest count. -/
theorem figures_are_exact (overflow : Overflow) (d : Data)
    (h : d.engagement.length < UInt32.size) :
    Within overflow d.engagement ∧ ∃ p, of overflow d = .ok p ∧ p.Tells d.engagement := by
  obtain ⟨mean, hmean, hexact⟩ := exists_meanActiveUsers overflow h
  obtain ⟨newSignups, hnew, hnewSignups⟩ := exists_sumOf overflow (·.newSignups) h
  obtain ⟨matched, hmatch, hmatched⟩ := exists_sumOf overflow (·.matched) h
  obtain ⟨messages, hsent, hmessages⟩ := exists_sumOf overflow (·.messagesSent) h
  have hshown : (shownMean mean).toNat = exactMean d.engagement := by
    refine (toNat_shownMean (UInt64.le_iff_toNat_le.mpr ?_)).trans hexact
    rw [hexact]
    exact exactMean_le_greatest d.engagement
  refine ⟨within overflow h, ⟨d.engagement, shownMean mean, newSignups, matched, messages⟩, ?_, ?_⟩
  · unfold of
    rw [hmean, hnew, hmatch, hsent]
    rfl
  · exact {
      series := rfl
      newSignups := hnewSignups
      matched := hmatched
      messages := hmessages
      mean := by
        rw [Nat.floor_div_eq_div, hshown, exactMean]
        cases hdays : d.engagement with
        | nil => rfl
        | cons day rest => rw [List.length_cons, max_eq_left (Nat.le_add_left 1 _)]
      mean_nil := by
        intro hdays
        rw [hdays] at hshown
        exact UInt32.toNat_inj.mp hshown
      mean_between := by
        intro hdays
        obtain ⟨least, hleast, greatest, hgreatest, hall⟩ := exists_extremes hdays
        refine ⟨least, hleast, greatest, hgreatest, hall, ?_, ?_⟩
        · rw [UInt32.le_iff_toNat_le, hshown]
          exact le_exactMean hdays fun day hday => UInt32.le_iff_toNat_le.mp (hall day hday).1
        · rw [UInt32.le_iff_toNat_le, hshown]
          exact exactMean_le fun day hday => UInt32.le_iff_toNat_le.mp (hall day hday).2 }

/-- Two days whose sum no longer fits into 32 bits, and whose mean lies between two whole
numbers. -/
theorem figures_are_exact_twoDays :
    let d : Data := { Sample.data with engagement :=
      [⟨⟨2024, 1, 1⟩, 4294967295, 4294967295, 1, 0⟩, ⟨⟨2024, 1, 2⟩, 4294967292, 2, 1, 0⟩] }
    d.engagement.length < UInt32.size ∧
      ∃ p, of .stops d = .ok p ∧ p.Tells d.engagement ∧ p.averageActiveUsers = 4294967293 ∧
        p.totalNewSignups = 4294967297 := by
  intro d
  have hlength : d.engagement.length < UInt32.size := by decide
  have hfigures : (of .stops d).toOption.map (fun p => (p.averageActiveUsers, p.totalNewSignups)) =
      some (4294967293, 4294967297) := by decide
  obtain ⟨-, p, hp, htells⟩ := figures_are_exact .stops d hlength
  rw [hp] at hfigures
  obtain ⟨hmean, hsignups⟩ := Prod.mk.inj (Option.some.inj hfigures)
  exact ⟨hlength, p, hp, htells, hmean, hsignups⟩

end AdminConsole.EngagementPage
