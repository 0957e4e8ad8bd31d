import AdminConsole.Text.Hex
import Mathlib.Data.List.Induction
import Mathlib.Data.List.TakeWhile

/-! # Hexadecimal numbers read back

A number written in a fixed count of digits is read back as what fits into them
(`Hex.number?_fixed`).  Written without leading zeros it is read back as it is, if
it is not beyond all bounds (`Hex.number?_digits`).  Only digits are read, and of
a few digits only a small number (`Hex.number?_lt`).
-/
namespace AdminConsole

namespace Hex

theorem value?_digit {n : Nat} (h : n < 16) : value? (digit n) = some n := by
  have hall : ∀ k : Fin 16, value? (digit k) = some k.val := by decide
  exact hall ⟨n, h⟩

theorem length_fixed (k n : Nat) : (fixed k n).length = k := by
  induction k generalizing n with
  | zero => rfl
  | succ k ih => rw [fixed, List.length_append, ih, List.length_singleton]

/-- The last digits of a number denote what is left of it. -/
theorem number?_fixed (k n : Nat) : number? (fixed k n) = some (n % Nat.pow 16 k) := by
  induction k generalizing n with
  | zero =>
    show some 0 = some (n % 1)
    rw [Nat.mod_one]
  | succ k ih =>
    -- The digits before the last denote what is left of `n / 16`.
    have hprefix : (fixed k (n / 16)).foldlM (fun acc c => (value? c).map (acc * 16 + ·)) 0 =
        some (n / 16 % Nat.pow 16 k) := ih (n / 16)
    have hvalue : n / 16 % Nat.pow 16 k * 16 + n % 16 = n % Nat.pow 16 (k + 1) := by
      show _ = n % (Nat.pow 16 k * 16)
      rw [Nat.mul_comm (Nat.pow 16 k), Nat.mod_mul]
      omega
    unfold number? fixed
    rw [List.foldlM_append, hprefix]
    show ((value? (digit (n % 16))).map (n / 16 % Nat.pow 16 k * 16 + ·)).bind some = _
    rw [value?_digit (Nat.mod_lt n (by decide)), Option.map_some, Option.bind_some, hvalue]

theorem mem_fixed {k n : Nat} {c : Char} (h : c ∈ fixed k n) : ∃ m < 16, c = digit m := by
  induction k generalizing n with
  | zero => cases h
  | succ k ih =>
    rcases List.mem_append.mp h with h | h
    · exact ih h
    · exact ⟨n % 16, Nat.mod_lt n (by decide), List.mem_singleton.mp h⟩

variable {k n : Nat} {cs : List Char}

theorem value?_lt {c : Char} {d : Nat} (h : value? c = some d) : d < 16 := by
  unfold value? at h
  dsimp only at h
  split at h
  · cases h
    omega
  · split at h
    · cases h
      omega
    · split at h
      · cases h
        omega
      · cases h

theorem number?_concat (cs : List Char) (c : Char) : number? (cs ++ [c]) =
    (number? cs).bind fun n => (value? c).map (n * 16 + ·) := by
  unfold number?
  rw [List.foldlM_append]
  refine congrArg _ (funext fun n => ?_)
  rw [List.foldlM_cons]
  cases value? c <;> rfl

/-- What is read consists of digits, and is small if there are few of them. -/
theorem number?_lt (h : number? cs = some n) :
    n < Nat.pow 16 cs.length ∧ ∀ c ∈ cs, (value? c).isSome := by
  induction cs using List.reverseRecOn generalizing n with
  | nil =>
    cases h
    exact ⟨by decide, fun _ hc => absurd hc List.not_mem_nil⟩
  | append_singleton front c ih =>
    rw [number?_concat] at h
    obtain ⟨m, hm, hlast⟩ := Option.bind_eq_some_iff.mp h
    obtain ⟨d, hd, rfl⟩ := Option.map_eq_some_iff.mp hlast
    obtain ⟨hfront, hdigits⟩ := ih hm
    have hlt := value?_lt hd
    constructor
    · rw [List.length_append, List.length_singleton]
      show m * 16 + d < Nat.pow 16 front.length * 16
      omega
    · refine List.forall_mem_append.mpr ⟨hdigits, List.forall_mem_singleton.mpr ?_⟩
      rw [hd]
      rfl

theorem number?_zeros (k : Nat) (cs : List Char) :
    number? (List.replicate k '0' ++ cs) = number? cs := by
  induction k with
  | zero => rfl
  | succ k ih => exact ih

/-- Zeros stand in the places that a number does not need. -/
theorem fixed_add (k : Nat) {m n : Nat} (h : n < Nat.pow 16 m) :
    fixed (k + m) n = List.replicate k '0' ++ fixed m n := by
  induction m generalizing n with
  | zero =>
    obtain rfl : n = 0 := Nat.lt_one_iff.mp h
    rw [fixed, List.append_nil]
    induction k with
    | zero => rfl
    | succ k ih =>
      rw [List.replicate_succ', ← ih]
      rfl
  | succ m ih =>
    have hfront : n / 16 < Nat.pow 16 m := Nat.div_lt_of_lt_mul (by
      rw [Nat.mul_comm]
      exact h)
    show fixed (k + m) (n / 16) ++ [digit (n % 16)] = _
    rw [ih hfront, fixed, List.append_assoc]

/-- Behind zeros, the digits of a number are those in a fixed count of places. -/
theorem exists_zeros_digits {m : Nat} (hm : 0 < m) (hplaces : m ≤ 32) (h : n < Nat.pow 16 m) :
    ∃ k, fixed m n = List.replicate k '0' ++ digits n := by
  have hdrop : (fixed 32 n).dropWhile (· == '0') = (fixed m n).dropWhile (· == '0') := by
    obtain ⟨k, hk⟩ := Nat.exists_eq_add_of_le hplaces
    rw [hk, Nat.add_comm m k, fixed_add k h, List.dropWhile_append_of_pos]
    intro c hc
    rw [List.eq_of_mem_replicate hc]
    rfl
  have hzeros : (fixed m n).takeWhile (· == '0') =
      List.replicate ((fixed m n).takeWhile (· == '0')).length '0' := by
    refine List.eq_replicate_iff.mpr ⟨rfl, fun c hc => ?_⟩
    simpa using List.mem_takeWhile_imp hc
  have hsplit := (fixed m n).takeWhile_append_dropWhile (p := (· == '0'))
  unfold digits
  dsimp only
  rw [hdrop]
  split
  · next hnone =>
    -- All places are zeros, and the last of them stands for the number.
    rw [hnone, List.append_nil] at hsplit
    rw [hsplit, length_fixed] at hzeros
    refine ⟨m - 1, ?_⟩
    rw [hzeros, ← List.replicate_succ', Nat.sub_add_cancel hm]
  · rw [hzeros] at hsplit
    exact ⟨_, hsplit.symm⟩

/-- **A number of few digits is read back from them, and they are digits.** -/
theorem number?_digits {m : Nat} (hm : 0 < m) (hplaces : m ≤ 32) (h : n < Nat.pow 16 m) :
    number? (digits n) = some n ∧ (digits n).length ≤ m ∧
      ∀ c ∈ digits n, ∃ d < 16, c = digit d := by
  obtain ⟨k, hk⟩ := exists_zeros_digits hm hplaces h
  refine ⟨?_, ?_, fun c hc => ?_⟩
  · rw [← number?_zeros k, ← hk, number?_fixed, Nat.mod_eq_of_lt h]
  · have hlength := length_fixed m n
    rw [hk, List.length_append] at hlength
    omega
  · refine mem_fixed (k := m) (n := n) ?_
    rw [hk]
    exact List.mem_append_right _ hc

end Hex

end AdminConsole
