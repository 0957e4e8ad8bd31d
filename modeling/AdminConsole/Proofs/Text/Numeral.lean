import AdminConsole.Proofs.List.Failure
import AdminConsole.Text.Numeral

/-! # What a numeral denotes

`IsNatural` and `IsInteger` say which number a text denotes, with no bound and
no order of reading: a sign, which may be missing, and digits, of which there is
at least one.  Such digits are those of the number in decimal, behind any number of
zeros (`isDigits_iff`).  The readers accept exactly the numerals of numbers within
their bounds (`natural_eq_ok_iff`, `integer_eq_ok_iff`).  They stop at the first
digit that leads out of the bounds, and that loses nothing, because further digits
never make a number smaller (`le_ofDigitChars`).

Of a natural numeral that is refused, `Flaw` says what is wrong with its digits: the
first of them at which they leave off being digits, or being a number within the
bound (`natural_eq_error_iff`).
-/
namespace AdminConsole

namespace Numeral

variable {bound n : Nat} {overflow fault : NumeralFault} {cs ds : List Char} {s : String}

/-- At least one digit, and the number that the digits denote from the most significant one on. -/
structure IsDigits (ds : List Char) (n : Nat) : Prop where
  nonempty : ds ≠ []
  digits : ∀ c ∈ ds, c.isDigit = true
  value : Nat.ofDigitChars 10 ds 0 = n

/-- The text is digits with no sign before them, or with a plus sign. -/
def IsNatural (s : String) (n : Nat) : Prop :=
  ∃ ds, IsDigits ds n ∧ (s.toList = ds ∨ s.toList = '+' :: ds)

/-- The text is a natural numeral, or a minus sign before digits. -/
def IsInteger (s : String) (n : Int) : Prop :=
  (∃ m, IsNatural s m ∧ n = m) ∨ ∃ ds m, IsDigits ds m ∧ s.toList = '-' :: ds ∧ n = -m

/-- What is wrong with digits that are to denote a number of at most `bound` on top of `acc`. -/
inductive Flaw (bound : Nat) (overflow : NumeralFault) (acc : Nat) :
    List Char → NumeralFault → Prop
  /-- A character is no digit, and the digits before it denote a number within the bound. -/
  | character {front : List Char} {c : Char} {back : List Char}
      (hfront : ∀ d ∈ front, d.isDigit = true) (hle : Nat.ofDigitChars 10 front acc ≤ bound)
      (hc : c.isDigit = false) : Flaw bound overflow acc (front ++ c :: back) .badDigit
  /-- The first digits denote a number out of bounds, whatever stands behind them. -/
  | value {front back : List Char} (hfront : ∀ d ∈ front, d.isDigit = true)
      (hlt : bound < Nat.ofDigitChars 10 front acc) :
      Flaw bound overflow acc (front ++ back) overflow

/-- What stands behind the plus sign of a natural numeral, or all of it if there is none. -/
def unsignedPart (s : String) : List Char :=
  match s.toList with
  | '+' :: rest => rest
  | cs => cs

theorem IsDigits.not_mem (h : IsDigits ds n) {c : Char} (hc : c.isDigit = false) : c ∉ ds := by
  intro hmem
  rw [h.digits c hmem] at hc
  cases hc

/-! ## Digits -/

theorem digit?_of_isDigit {c : Char} (h : c.isDigit = true) :
    digit? c = some (c.toNat - '0'.toNat) := by
  simp only [Char.isDigit, Bool.and_eq_true, decide_eq_true_eq] at h
  exact if_pos h

theorem digit?_of_not_isDigit {c : Char} (h : ¬ c.isDigit = true) : digit? c = none := by
  simp only [Char.isDigit, Bool.and_eq_true, decide_eq_true_eq] at h
  exact if_neg h

/-- Further digits never make a number smaller. -/
theorem le_ofDigitChars (ds : List Char) (n : Nat) : n ≤ Nat.ofDigitChars 10 ds n := by
  induction ds generalizing n with
  | nil => exact Nat.le_refl n
  | cons c rest ih =>
    have hrest := ih (10 * n + (c.toNat - '0'.toNat))
    rw [Nat.ofDigitChars_cons]
    omega

theorem toDigits_of_isDigit {c : Char} (h : c.isDigit = true) :
    c.toNat - '0'.toNat < 10 ∧ Nat.toDigits 10 (c.toNat - '0'.toNat) = [c] := by
  have hbounds : 48 ≤ c.toNat ∧ c.toNat ≤ 57 := by simpa [Char.isDigit_iff_toNat] using h
  have hlt : c.toNat - '0'.toNat < 10 := by
    show c.toNat - 48 < 10
    omega
  refine ⟨hlt, ?_⟩
  rw [Nat.toDigits_of_lt_base hlt, List.singleton_inj, ← Char.toNat_inj,
    Nat.toNat_digitChar_of_lt_ten hlt]
  show 48 + (c.toNat - 48) = c.toNat
  omega

/-- Behind a number that is not zero, digits are part of its decimal digits. -/
theorem toDigits_append_digits (hn : 0 < n) (hds : ∀ c ∈ ds, c.isDigit = true) :
    Nat.toDigits 10 n ++ ds = Nat.toDigits 10 (Nat.ofDigitChars 10 ds n) := by
  induction ds generalizing n with
  | nil => rw [List.append_nil, Nat.ofDigitChars_nil]
  | cons c rest ih =>
    obtain ⟨hlt, hc⟩ := toDigits_of_isDigit (hds c List.mem_cons_self)
    have hstep : Nat.toDigits 10 n ++ [c] = Nat.toDigits 10 (10 * n + (c.toNat - '0'.toNat)) := by
      rw [← hc, Nat.toDigits_append_toDigits (by decide) hn hlt]
    rw [Nat.ofDigitChars_cons, ← ih (by omega) fun d hd => hds d (List.mem_cons_of_mem c hd),
      ← hstep, List.append_assoc, List.singleton_append]

/-- **Digits denote the number whose decimal digits they are, behind any number of zeros.** -/
theorem isDigits_iff : IsDigits ds n ↔ ∃ k, ds = List.replicate k '0' ++ Nat.toDigits 10 n := by
  constructor
  · intro h
    induction ds with
    | nil => exact absurd rfl h.nonempty
    | cons c rest ih =>
      obtain ⟨hc, hrest⟩ := List.forall_mem_cons.mp h.digits
      have hvalue := h.value
      rw [Nat.ofDigitChars_cons, Nat.mul_zero, Nat.zero_add] at hvalue
      obtain ⟨-, hdigit⟩ := toDigits_of_isDigit hc
      by_cases hzero : c.toNat - '0'.toNat = 0
      · -- A zero in front counts for nothing, unless it is all there is.
        rw [hzero] at hvalue hdigit
        obtain rfl : c = '0' := List.singleton_inj.mp (hdigit.symm.trans (Nat.toDigits_zero 10))
        cases rest with
        | nil => exact ⟨0, by rw [← hvalue]; rfl⟩
        | cons d more =>
          obtain ⟨k, hk⟩ := ih ⟨List.cons_ne_nil d more, hrest, hvalue⟩
          exact ⟨k + 1, by rw [hk]; rfl⟩
      · refine ⟨0, ?_⟩
        rw [List.replicate_zero, List.nil_append, ← hvalue,
          ← toDigits_append_digits (Nat.pos_of_ne_zero hzero) hrest, hdigit, List.singleton_append]
  · rintro ⟨k, rfl⟩
    refine ⟨?_, fun c hc => ?_, ?_⟩
    · exact List.append_ne_nil_of_right_ne_nil _ Nat.toDigits_ne_nil
    · rcases List.mem_append.mp hc with hc | hc
      · rw [List.eq_of_mem_replicate hc]
        rfl
      · exact Nat.isDigit_of_mem_toDigits (by decide) (by decide) hc
    · rw [Nat.ofDigitChars_append, Nat.ofDigitChars_replicate_zero, Nat.mul_zero,
        Nat.ofDigitChars_ten_toDigits]

/-- Without zeros in front, but for zero itself, the digits are those of the number in decimal. -/
theorem eq_toDigits_iff : ds = Nat.toDigits 10 n ↔
    IsDigits ds n ∧ (ds.head? = some '0' → ds.length = 1) := by
  constructor
  · rintro rfl
    have hall : IsDigits (Nat.toDigits 10 n) n := isDigits_iff.mpr ⟨0, rfl⟩
    refine ⟨hall, fun hhead => ?_⟩
    cases hds : Nat.toDigits 10 n with
    | nil => exact absurd hds Nat.toDigits_ne_nil
    | cons c rest =>
      rw [hds] at hall hhead
      obtain rfl : c = '0' := Option.some.inj hhead
      cases rest with
      | nil => rfl
      | cons d more =>
        -- Without the zero the same number is denoted, by fewer digits than it has.
        have hfewer : IsDigits (d :: more) n :=
          ⟨List.cons_ne_nil d more, (List.forall_mem_cons.mp hall.digits).2, hall.value⟩
        obtain ⟨k, hk⟩ := isDigits_iff.mp hfewer
        have hlength := congrArg List.length hk
        rw [hds, List.length_append, List.length_cons] at hlength
        simp only [List.length_cons] at hlength
        omega
  · rintro ⟨hall, hzero⟩
    obtain ⟨k, rfl⟩ := isDigits_iff.mp hall
    cases k with
    | zero => rfl
    | succ k =>
      have hlength := hzero rfl
      have hpos : 0 < (Nat.toDigits 10 n).length := Nat.length_toDigits_pos
      rw [List.length_append, List.length_replicate] at hlength
      omega

/-- Digits are read to what they denote on top of `acc`, if that is within the bound. -/
theorem magnitude_eq_ok_iff {acc : Nat} (hacc : acc ≤ bound) :
    magnitude bound overflow acc ds = .ok n ↔
      (∀ c ∈ ds, c.isDigit = true) ∧ Nat.ofDigitChars 10 ds acc = n ∧ n ≤ bound := by
  induction ds generalizing acc with
  | nil =>
    rw [magnitude, Nat.ofDigitChars_nil, Except.ok.injEq]
    constructor
    · rintro rfl
      exact ⟨fun _ hc => absurd hc List.not_mem_nil, rfl, hacc⟩
    · exact fun h => h.2.1
  | cons c rest ih =>
    rw [magnitude, List.forall_mem_cons, Nat.ofDigitChars_cons, Nat.mul_comm 10 acc]
    by_cases hc : c.isDigit = true
    · rw [digit?_of_isDigit hc]
      dsimp only
      by_cases hnext : acc * 10 + (c.toNat - '0'.toNat) ≤ bound
      · rw [if_pos hnext, ih hnext, and_assoc]
        exact ⟨fun h => ⟨hc, h⟩, fun h => h.2⟩
      · -- The value is out of bounds already, and more digits do not bring it back.
        rw [if_neg hnext]
        refine iff_of_false (fun h => by cases h) ?_
        rintro ⟨-, rfl, hle⟩
        exact hnext (Nat.le_trans (le_ofDigitChars rest _) hle)
    · rw [digit?_of_not_isDigit hc]
      exact iff_of_false (fun h => by cases h) fun h => hc h.1.1

/-- Beyond the bound every text is out of bounds. -/
theorem flaw_iff_of_lt {acc : Nat} (hacc : bound < acc) :
    Flaw bound overflow acc ds fault ↔ fault = overflow := by
  constructor
  · intro h
    cases h with
    | character hfront hle hc =>
      exact absurd (Nat.le_trans (le_ofDigitChars _ acc) hle) (Nat.not_le.mpr hacc)
    | value => rfl
  · rintro rfl
    have hnone : ∀ d ∈ ([] : List Char), d.isDigit = true := fun _ hd => absurd hd List.not_mem_nil
    exact .value hnone hacc

theorem not_flaw_nil {acc : Nat} (hacc : acc ≤ bound) : ¬ Flaw bound overflow acc [] fault := by
  intro h
  generalize hds : ([] : List Char) = ds at h
  cases h with
  | character => simp at hds
  | value hfront hlt =>
    obtain ⟨rfl, rfl⟩ := List.nil_eq_append_iff.mp hds
    exact Nat.not_lt.mpr hacc hlt

theorem flaw_iff_of_not_isDigit {acc : Nat} {c : Char} (hacc : acc ≤ bound)
    (hc : c.isDigit = false) : Flaw bound overflow acc (c :: cs) fault ↔ fault = .badDigit := by
  constructor
  · intro h
    generalize hds : c :: cs = ds at h
    cases h with
    | character => rfl
    | @value front back hfront hlt =>
      cases front with
      | nil => exact absurd hlt (Nat.not_lt.mpr hacc)
      | cons d front =>
        obtain rfl : c = d := (List.cons.inj hds).1
        rw [hfront c List.mem_cons_self] at hc
        cases hc
  · rintro rfl
    have hnone : ∀ d ∈ ([] : List Char), d.isDigit = true := fun _ hd => absurd hd List.not_mem_nil
    exact .character hnone hacc hc

theorem flaw_iff_of_isDigit {acc : Nat} {c : Char} (hacc : acc ≤ bound) (hc : c.isDigit = true) :
    Flaw bound overflow acc (c :: cs) fault ↔
      Flaw bound overflow (10 * acc + (c.toNat - '0'.toNat)) cs fault := by
  constructor
  · intro h
    generalize hds : c :: cs = ds at h
    cases h with
    | @character front d back hfront hle hd =>
      cases front with
      | nil =>
        obtain rfl : c = d := (List.cons.inj hds).1
        rw [hc] at hd
        cases hd
      | cons e front =>
        obtain ⟨rfl, rfl⟩ := List.cons.inj hds
        rw [Nat.ofDigitChars_cons] at hle
        exact .character (List.forall_mem_cons.mp hfront).2 hle hd
    | @value front back hfront hlt =>
      cases front with
      | nil => exact absurd hlt (Nat.not_lt.mpr hacc)
      | cons e front =>
        obtain ⟨rfl, rfl⟩ := List.cons.inj hds
        rw [Nat.ofDigitChars_cons] at hlt
        exact .value (List.forall_mem_cons.mp hfront).2 hlt
  · intro h
    have hcons : ∀ {front : List Char}, (∀ d ∈ front, d.isDigit = true) →
        ∀ d ∈ c :: front, d.isDigit = true := fun hfront => List.forall_mem_cons.mpr ⟨hc, hfront⟩
    cases h with
    | character hfront hle hd =>
      rw [← Nat.ofDigitChars_cons] at hle
      exact .character (hcons hfront) hle hd
    | value hfront hlt =>
      rw [← Nat.ofDigitChars_cons] at hlt
      exact .value (hcons hfront) hlt

/-- Digits are refused for what is wrong with them. -/
theorem magnitude_eq_error_iff {acc : Nat} (hacc : acc ≤ bound) :
    magnitude bound overflow acc ds = .error fault ↔ Flaw bound overflow acc ds fault := by
  induction ds generalizing acc with
  | nil => exact iff_of_false (fun h => by cases h) (not_flaw_nil hacc)
  | cons c rest ih =>
    rw [magnitude]
    by_cases hc : c.isDigit = true
    · rw [digit?_of_isDigit hc, flaw_iff_of_isDigit hacc hc, Nat.mul_comm 10 acc]
      dsimp only
      by_cases hnext : acc * 10 + (c.toNat - '0'.toNat) ≤ bound
      · rw [if_pos hnext, ih hnext]
      · rw [if_neg hnext, flaw_iff_of_lt (Nat.lt_of_not_le hnext), Except.error.injEq, eq_comm]
    · rw [digit?_of_not_isDigit hc, flaw_iff_of_not_isDigit hacc (Bool.eq_false_iff.mpr hc),
        Except.error.injEq, eq_comm]

theorem unsigned_eq_ok_iff : unsigned bound overflow ds = .ok n ↔ IsDigits ds n ∧ n ≤ bound := by
  unfold unsigned
  split
  · next hempty =>
    refine iff_of_false (fun h => by cases h) fun h => h.1.nonempty (List.isEmpty_iff.mp hempty)
  · next hempty =>
    have hne : ds ≠ [] := fun h => hempty (List.isEmpty_iff.mpr h)
    rw [magnitude_eq_ok_iff (Nat.zero_le bound)]
    exact ⟨fun h => ⟨⟨hne, h.1, h.2.1⟩, h.2.2⟩, fun h => ⟨h.1.digits, h.1.value, h.2⟩⟩

/-- Where there is something to read, it does not matter that nothing would be refused. -/
theorem magnitude_eq_unsigned (h : cs ≠ []) :
    magnitude bound overflow 0 cs = unsigned bound overflow cs := by
  unfold unsigned
  rw [if_neg (mt List.isEmpty_iff.mp h)]

/-! ## Natural numerals -/

theorem isNatural_plus (h : s.toList = '+' :: ds) : IsNatural s n ↔ IsDigits ds n := by
  constructor
  · rintro ⟨ds', hds', hs | hs⟩
    · rw [h] at hs
      exact absurd (hs ▸ List.mem_cons_self) (hds'.not_mem (by decide : '+'.isDigit = false))
    · rw [h, List.cons.injEq] at hs
      exact hs.2 ▸ hds'
  · exact fun hds => ⟨ds, hds, Or.inr h⟩

theorem isNatural_of_no_plus (h : ∀ rest, s.toList ≠ '+' :: rest) :
    IsNatural s n ↔ IsDigits s.toList n := by
  constructor
  · rintro ⟨ds, hds, hs | hs⟩
    · exact hs ▸ hds
    · exact absurd hs (h ds)
  · exact fun hds => ⟨s.toList, hds, Or.inl rfl⟩

/-- **The natural numerals that are read are those of the numbers within the bound.** -/
theorem natural_eq_ok_iff : natural bound s = .ok n ↔ IsNatural s n ∧ n ≤ bound := by
  unfold natural
  split
  · next hs =>
    rw [isNatural_of_no_plus (fun rest h => by rw [hs] at h; cases h), hs]
    exact iff_of_false (fun h => by cases h) fun h => h.1.nonempty rfl
  · next rest hs => rw [unsigned_eq_ok_iff, isNatural_plus hs]
  · next hempty hplus =>
    rw [magnitude_eq_unsigned hempty, unsigned_eq_ok_iff, isNatural_of_no_plus hplus]

/-- A natural numeral is written with or without a plus sign and any number of zeros. -/
theorem isNatural_iff : IsNatural s n ↔ ∃ sign k, (sign = [] ∨ sign = ['+']) ∧
    s.toList = sign ++ (List.replicate k '0' ++ Nat.toDigits 10 n) := by
  constructor
  · rintro ⟨ds, hds, hs⟩
    obtain ⟨k, rfl⟩ := isDigits_iff.mp hds
    rcases hs with hs | hs
    · exact ⟨[], k, Or.inl rfl, hs⟩
    · exact ⟨['+'], k, Or.inr rfl, hs⟩
  · rintro ⟨sign, k, rfl | rfl, hs⟩
    · exact ⟨_, isDigits_iff.mpr ⟨k, rfl⟩, Or.inl hs⟩
    · exact ⟨_, isDigits_iff.mpr ⟨k, rfl⟩, Or.inr hs⟩

/-- A natural numeral is refused for what is wrong with its digits, or because it is a sign. -/
theorem natural_eq_error_iff (hs : s ≠ "") : natural bound s = .error fault ↔
    (unsignedPart s = [] ∧ fault = .badDigit) ∨
      Flaw bound .tooLarge 0 (unsignedPart s) fault := by
  have hnil : s.toList ≠ [] := mt String.toList_eq_nil_iff.mp hs
  have hread : natural bound s = unsigned bound .tooLarge (unsignedPart s) := by
    unfold natural unsignedPart
    split
    · next h => exact absurd h hnil
    · next rest h =>
      rw [h]
      rfl
    · next hempty hplus =>
      rw [magnitude_eq_unsigned hempty]
      split
      · next rest h => exact absurd h (hplus rest)
      · rfl
  rw [hread]
  unfold unsigned
  split
  · next hempty =>
    have hpart : unsignedPart s = [] := List.isEmpty_iff.mp hempty
    rw [hpart, or_iff_left (not_flaw_nil (Nat.zero_le bound)), Except.error.injEq, eq_comm]
    exact (and_iff_right rfl).symm
  · next hempty =>
    have hpart : unsignedPart s ≠ [] := mt List.isEmpty_iff.mpr hempty
    rw [magnitude_eq_error_iff (Nat.zero_le bound)]
    exact (or_iff_right fun h => hpart h.1).symm

/-! ## Integer numerals -/

theorem isInteger_minus {n : Int} (h : s.toList = '-' :: ds) :
    IsInteger s n ↔ ∃ m : Nat, IsDigits ds m ∧ n = -m := by
  have hplus : ∀ rest, s.toList ≠ '+' :: rest := fun rest hs => by
    rw [h] at hs
    cases hs
  constructor
  · rintro (⟨m, hm, -⟩ | ⟨ds', m, hds', hs, hn⟩)
    · rw [isNatural_of_no_plus hplus, h] at hm
      exact absurd List.mem_cons_self (hm.not_mem (by decide : '-'.isDigit = false))
    · rw [h, List.cons.injEq] at hs
      exact ⟨m, hs.2 ▸ hds', hn⟩
  · exact fun ⟨m, hds, hn⟩ => Or.inr ⟨ds, m, hds, h, hn⟩

theorem isInteger_of_no_minus {n : Int} (h : ∀ rest, s.toList ≠ '-' :: rest) :
    IsInteger s n ↔ ∃ m : Nat, IsNatural s m ∧ n = m := by
  constructor
  · rintro (hn | ⟨ds, m, -, hs, -⟩)
    · exact hn
    · exact absurd hs (h ds)
  · exact Or.inl

theorem integer_of_minus (h : s.toList = '-' :: ds) :
    integer bound s = (unsigned (bound + 1) .tooSmall ds).map fun m : Nat => -(m : Int) := by
  unfold integer
  rw [h]
  rfl

/-- Without a minus sign an integer is read as a natural number is. -/
theorem integer_of_no_minus (h : ∀ rest, s.toList ≠ '-' :: rest) :
    integer bound s = (natural bound s).map fun m : Nat => (m : Int) := by
  unfold integer natural
  split
  · next hs =>
    rw [hs]
    rfl
  · next hs =>
    rw [hs]
    rfl
  · next rest hs => exact absurd hs (h rest)
  · next hempty hplus hminus =>
    split
    · next hs => exact absurd hs hempty
    · next rest hs => exact absurd hs (hplus rest)
    · rfl

/-- **The integer numerals that are read are those of the numbers within the bounds.** -/
theorem integer_eq_ok_iff {n : Int} :
    integer bound s = .ok n ↔ IsInteger s n ∧ -(bound + 1 : Int) ≤ n ∧ n ≤ bound := by
  by_cases h : ∃ rest, s.toList = '-' :: rest
  · obtain ⟨rest, hs⟩ := h
    rw [integer_of_minus hs, map_eq_ok_iff, isInteger_minus hs]
    constructor
    · rintro ⟨m, hm, rfl⟩
      obtain ⟨hdigits, hle⟩ := unsigned_eq_ok_iff.mp hm
      exact ⟨⟨m, hdigits, rfl⟩, by omega, by omega⟩
    · rintro ⟨⟨m, hdigits, rfl⟩, hleast, -⟩
      exact ⟨m, unsigned_eq_ok_iff.mpr ⟨hdigits, by omega⟩, rfl⟩
  · have hno : ∀ rest, s.toList ≠ '-' :: rest := fun rest hs => h ⟨rest, hs⟩
    rw [integer_of_no_minus hno, map_eq_ok_iff, isInteger_of_no_minus hno]
    constructor
    · rintro ⟨m, hm, rfl⟩
      obtain ⟨hnatural, hle⟩ := natural_eq_ok_iff.mp hm
      exact ⟨⟨m, hnatural, rfl⟩, by omega, Int.ofNat_le.mpr hle⟩
    · rintro ⟨⟨m, hnatural, rfl⟩, -, hle⟩
      exact ⟨m, natural_eq_ok_iff.mpr ⟨hnatural, Int.ofNat_le.mp hle⟩, rfl⟩

end Numeral

end AdminConsole
