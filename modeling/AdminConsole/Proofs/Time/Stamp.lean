import AdminConsole.Proofs.Text.Trim
import AdminConsole.Proofs.Time.Calendar
import AdminConsole.Time.Rfc3339

/-! # Time stamps read back

A number padded to a fixed width is read back by the reader of that width,
whatever follows it (`TimeReader.number_padded`).  Part by part this gives the
date and the time of day, and so the instant that was written, cut to whole
milliseconds (`Instant.parse?_textMillis`).

A second of more than a thousand million nanoseconds is a leap second, and only
the last second of a minute can be one (`Instant.IsClock`).  Whatever time stamp
is read is of this kind (`Instant.isClock_of_parse?`).
-/
namespace AdminConsole

/-! ## Padded numbers -/

namespace Numeral

theorem toList_padded (k n : Nat) : (padded k n).toList =
    List.replicate (k - (Nat.toDigits 10 n).length) '0' ++ Nat.toDigits 10 n :=
  String.toList_ofList

theorem length_padded {k n : Nat} (hk : 0 < k) (h : n < Nat.pow 10 k) :
    (padded k n).toList.length = k := by
  have hlength := (Nat.length_toDigits_le_iff (b := 10) (by decide) hk).mpr h
  rw [toList_padded, List.length_append, List.length_replicate]
  omega

theorem isDigit_of_mem_padded {k n : Nat} {c : Char} (h : c ∈ (padded k n).toList) : c.isDigit := by
  rw [toList_padded] at h
  rcases List.mem_append.mp h with h | h
  · rw [List.eq_of_mem_replicate h]
    decide
  · exact Nat.isDigit_of_mem_toDigits (by decide) (by decide) h

/-- The digits at the front of a padded number and what follows it. -/
theorem takeWhile_padded (k n : Nat) (rest : List Char) :
    ((padded k n).toList ++ rest).takeWhile Char.isDigit =
      (padded k n).toList ++ rest.takeWhile Char.isDigit :=
  List.takeWhile_append_of_pos fun _ hc => isDigit_of_mem_padded hc

theorem digitsValue_padded (k n : Nat) : TimeReader.digitsValue (padded k n).toList = n := by
  have hvalue : ∀ ds, TimeReader.digitsValue ds = Nat.ofDigitChars 10 ds 0 := by
    intro ds
    unfold TimeReader.digitsValue Nat.ofDigitChars
    congr 1
    funext acc c
    rw [Nat.mul_comm]
    rfl
  rw [hvalue, toList_padded, Nat.ofDigitChars_append, Nat.ofDigitChars_replicate_zero, Nat.mul_zero,
    Nat.ofDigitChars_ten_toDigits]

/-- A padded number starts with a digit. -/
theorem exists_padded_eq_cons {k n : Nat} (hk : 0 < k) (h : n < Nat.pow 10 k) :
    ∃ d ds, (padded k n).toList = d :: ds ∧ d.isDigit := by
  cases hlist : (padded k n).toList with
  | nil =>
    have hlength := length_padded hk h
    rw [hlist] at hlength
    exact absurd hlength (Nat.ne_of_lt hk)
  | cons d ds => exact ⟨d, ds, rfl, isDigit_of_mem_padded (hlist ▸ List.mem_cons_self)⟩

end Numeral

namespace TimeReader

/-! ## Reading what is written -/

theorem skipBlanks_cons {c : Char} (h : Text.isBlank c = false) (rest : List Char) :
    skipBlanks (c :: rest) = c :: rest :=
  List.dropWhile_cons_of_neg (Bool.eq_false_iff.mp h)

theorem separator_cons {c : Char} (h : Text.isBlank c = false) (rest : List Char) :
    separator c (c :: rest) = some rest := by
  rw [separator, skipBlanks_cons h]
  exact if_pos (beq_self_eq_true c)

variable {k n : Nat}

theorem skipBlanks_padded (hk : 0 < k) (h : n < Nat.pow 10 k) (rest : List Char) :
    skipBlanks ((Numeral.padded k n).toList ++ rest) = (Numeral.padded k n).toList ++ rest := by
  obtain ⟨d, ds, hlist, hd⟩ := Numeral.exists_padded_eq_cons hk h
  rw [hlist]
  exact skipBlanks_cons (Text.not_isBlank_of_isDigit hd) _

/-- **A padded number is read back.** -/
theorem number_padded (hk : 0 < k) (h : n < Nat.pow 10 k) (rest : List Char) :
    number k ((Numeral.padded k n).toList ++ rest) = some (n, rest) := by
  have hlength := Numeral.length_padded hk h
  obtain ⟨d, ds, hlist, -⟩ := Numeral.exists_padded_eq_cons hk h
  have hne : (Numeral.padded k n).toList.isEmpty = false := by
    rw [hlist]
    rfl
  have hdigits := Numeral.takeWhile_padded k n []
  rw [List.append_nil, List.takeWhile_nil, List.append_nil] at hdigits
  unfold number
  rw [List.take_append_of_le_length (Nat.le_of_eq hlength.symm), List.take_of_length_le
    (Nat.le_of_eq hlength), hdigits]
  dsimp only
  rw [hne, Numeral.digitsValue_padded, List.drop_left]
  rfl

theorem field_padded (hk : 0 < k) (h : n < Nat.pow 10 k) (rest : List Char) :
    field k ((Numeral.padded k n).toList ++ rest) = some (n, rest) := by
  rw [field, skipBlanks_padded hk h, number_padded hk h]

theorem year_yearText {y : Int} (hfirst : 0 ≤ y) (hlast : y ≤ 9999) (rest : List Char) :
    year ((Date.yearText y).toList ++ rest) = some (y, rest) := by
  have hlt : y.toNat < Nat.pow 10 4 := by
    show y.toNat < 10000
    omega
  obtain ⟨d, ds, hlist, hd⟩ := Numeral.exists_padded_eq_cons (by decide) hlt
  have hnumber := number_padded (by decide) hlt rest
  rw [Date.yearText, if_pos ⟨hfirst, hlast⟩, year, skipBlanks_padded (by decide) hlt]
  -- The first character is a digit and no sign.
  rw [hlist] at hnumber ⊢
  split
  · next heq =>
    cases heq
    exact absurd hd (by decide)
  · next heq =>
    cases heq
    exact absurd hd (by decide)
  · rw [hnumber]
    exact congrArg (fun y => some (y, rest)) (Int.toNat_of_nonneg hfirst)

theorem date_text {d : Date} (hvalid : d.IsValid) (hmonth : d.month ≤ 12) (hfirst : 0 ≤ d.year)
    (hlast : d.year ≤ 9999) (rest : List Char) :
    date (d.text.toList ++ rest) = some (d, rest) := by
  have hmonth' : d.month < Nat.pow 10 2 := Nat.lt_of_le_of_lt hmonth (by decide)
  have hday' : d.day < Nat.pow 10 2 := by
    have hlength : d.day ≤ Date.monthLength d.year d.month := hvalid.2.2.2
    exact Nat.lt_of_le_of_lt (Nat.le_trans hlength (Date.monthLength_le _ _)) (by decide)
  have hhyphen : "-".toList = ['-'] := rfl
  unfold Date.text date
  simp only [String.toList_append, List.append_assoc, hhyphen, List.cons_append, List.nil_append]
  rw [year_yearText hfirst hlast]
  dsimp only [bind, Option.bind]
  rw [separator_cons (by decide)]
  dsimp only
  rw [field_padded (by decide) hmonth']
  dsimp only
  rw [separator_cons (by decide)]
  dsimp only
  rw [field_padded (by decide) hday']
  dsimp only
  exact if_pos hvalid

/-- The fraction of a second in three digits, as milliseconds. -/
theorem fraction_padded {ms : Nat} (h : ms < Nat.pow 10 3) {c : Char} (hc : c.isDigit = false)
    (rest : List Char) :
    fraction ('.' :: ((Numeral.padded 3 ms).toList ++ c :: rest)) =
      some (ms * 1000000, c :: rest) := by
  obtain ⟨d, ds, hlist, -⟩ := Numeral.exists_padded_eq_cons (by decide) h
  have hlength := Numeral.length_padded (by decide) h
  have hdigits : ((Numeral.padded 3 ms).toList ++ c :: rest).takeWhile Char.isDigit =
      (Numeral.padded 3 ms).toList := by
    rw [Numeral.takeWhile_padded, List.takeWhile_cons_of_neg (Bool.eq_false_iff.mp hc),
      List.append_nil]
  have hne : (Numeral.padded 3 ms).toList.isEmpty = false := by
    rw [hlist]
    rfl
  have hkept : (Numeral.padded 3 ms).toList.take 9 = (Numeral.padded 3 ms).toList :=
    List.take_of_length_le (by rw [hlength]; decide)
  simp only [fraction, hdigits, hkept, hne, Numeral.digitsValue_padded, List.drop_left]
  rw [hlength]
  rfl

/-- The time of day in hours, minutes and seconds; a leap second runs on from the one before. -/
theorem timeOfDay_padded {h m s leap ms : Nat} (hh : h ≤ 23) (hm : m ≤ 59) (hs : s ≤ 59)
    (hleap : leap = 0 ∨ leap = 1 ∧ s = 59) (hms : ms < Nat.pow 10 3) {c : Char}
    (hc : c.isDigit = false) (rest : List Char) :
    timeOfDay ((Numeral.padded 2 h).toList ++ ':' :: ((Numeral.padded 2 m).toList ++
      ':' :: ((Numeral.padded 2 (s + leap)).toList ++ '.' :: ((Numeral.padded 3 ms).toList ++
        c :: rest)))) =
      some ((h * 3600 + m * 60 + s, leap * 1000000000 + ms * 1000000), c :: rest) := by
  have hh' : h < Nat.pow 10 2 := Nat.lt_of_le_of_lt hh (by decide)
  have hm' : m < Nat.pow 10 2 := Nat.lt_of_le_of_lt hm (by decide)
  have hs' : s + leap < Nat.pow 10 2 := Nat.lt_of_le_of_lt (show s + leap ≤ 60 by omega) (by decide)
  unfold timeOfDay
  dsimp only [bind, Option.bind]
  rw [field_padded (by decide) hh']
  dsimp only
  rw [separator_cons (by decide)]
  dsimp only
  rw [field_padded (by decide) hm']
  dsimp only
  rw [separator_cons (by decide)]
  dsimp only
  rw [field_padded (by decide) hs']
  dsimp only
  rw [fraction_padded hms hc]
  dsimp only
  rw [if_pos (by omega)]
  rcases hleap with rfl | ⟨rfl, rfl⟩
  · rw [if_neg (by omega), Nat.zero_mul, Nat.zero_add]
    rfl
  · rw [if_pos rfl, Nat.one_mul, Nat.add_comm 1000000000]
    rfl

end TimeReader

namespace Instant

/-! ## Time stamps -/

/-- The instant can stand on a clock.  Of the counts of seconds and nanoseconds only these are taken
for instants: the nanoseconds reach a thousand million, and never two, only in a leap second, and
only the last second of a minute is followed by one. -/
def IsClock (t : Instant) : Prop :=
  t.nanos < 1000000000 ∨ t.nanos < 2000000000 ∧ t.secondOfDay % 60 = 59

/-- The instant cut to whole milliseconds. -/
def toMillis (t : Instant) : Instant := { t with nanos := t.nanos / 1000000 * 1000000 }

theorem secondOfDay_lt (t : Instant) : t.secondOfDay < 86400 := by
  unfold secondOfDay secondsPerDay
  omega

/-- A time stamp has exactly the digits of the instant cut to whole milliseconds. -/
theorem textMillis_toMillis (t : Instant) : t.toMillis.textMillis = t.textMillis := by
  have hleap : t.toMillis.nanos / 1000000000 = t.nanos / 1000000000 := by
    unfold toMillis
    dsimp only
    omega
  have hmillis : t.toMillis.nanos % 1000000000 / 1000000 = t.nanos % 1000000000 / 1000000 := by
    unfold toMillis
    dsimp only
    omega
  unfold textMillis textToSecond
  rw [hleap, hmillis]
  rfl

/-- Whole seconds and whole milliseconds of a count of nanoseconds. -/
theorem millis_of_parts (nanos : Nat) :
    nanos / 1000000000 * 1000000000 + nanos % 1000000000 / 1000000 * 1000000 =
      nanos / 1000000 * 1000000 := by
  omega

/-- The years in which a time stamp has no sign. -/
def InFourDigits (t : Instant) : Prop := 0 ≤ t.date.year ∧ t.date.year ≤ 9999

theorem inCalendar_of_inFourDigits {t : Instant} (h : t.InFourDigits) : t.InCalendar := by
  obtain ⟨hfirst, hlast⟩ := h
  rw [le_year_date_iff] at hfirst
  have hbefore : ¬ 10000 ≤ t.date.year := by omega
  rw [le_year_date_iff] at hbefore
  have hleast : firstSecond ≤ Date.toDays ⟨0, 1, 1⟩ * secondsPerDay := by decide
  have hgreatest : Date.toDays ⟨10000, 1, 1⟩ * secondsPerDay ≤ lastSecond := by decide
  constructor <;> omega

/-- The time of day as a time stamp has it, up to the fraction, before further characters. -/
def clockChars (t : Instant) (rest : List Char) : List Char :=
  (Numeral.padded 2 (t.secondOfDay / 3600)).toList ++
    ':' :: ((Numeral.padded 2 (t.secondOfDay / 60 % 60)).toList ++
      ':' :: ((Numeral.padded 2 (t.secondOfDay % 60 + t.nanos / 1000000000)).toList ++
        '.' :: ((Numeral.padded 3 (t.nanos % 1000000000 / 1000000)).toList ++ rest)))

theorem toList_textMillis (t : Instant) :
    t.textMillis.toList = t.date.text.toList ++ 'T' :: t.clockChars ['Z'] := by
  have hT : "T".toList = ['T'] := rfl
  have hcolon : ":".toList = [':'] := rfl
  have hpoint : ".".toList = ['.'] := rfl
  have hZ : "Z".toList = ['Z'] := rfl
  unfold textMillis textToSecond clockChars
  simp only [String.toList_append, List.append_assoc, hT, hcolon, hpoint, hZ, List.cons_append,
    List.nil_append]

/-- The time of day is read back, cut to whole milliseconds. -/
theorem timeOfDay_clockChars {t : Instant} (h : t.IsClock) :
    TimeReader.timeOfDay (t.clockChars ['Z']) =
      some ((t.secondOfDay, t.nanos / 1000000 * 1000000), ['Z']) := by
  have hday := t.secondOfDay_lt
  have hleap : t.nanos / 1000000000 = 0 ∨ t.nanos / 1000000000 = 1 ∧ t.secondOfDay % 60 = 59 := by
    rcases h with h | ⟨h, hlast⟩
    · exact Or.inl (Nat.div_eq_of_lt h)
    · omega
  have hmillis : t.nanos % 1000000000 / 1000000 < Nat.pow 10 3 := by
    show t.nanos % 1000000000 / 1000000 < 1000
    omega
  have hseconds : t.secondOfDay / 3600 * 3600 + t.secondOfDay / 60 % 60 * 60 + t.secondOfDay % 60 =
      t.secondOfDay := by omega
  have hread := TimeReader.timeOfDay_padded (show t.secondOfDay / 3600 ≤ 23 by omega)
    (show t.secondOfDay / 60 % 60 ≤ 59 by omega) (show t.secondOfDay % 60 ≤ 59 by omega) hleap
    hmillis (show 'Z'.isDigit = false by decide) []
  rw [hseconds, millis_of_parts] at hread
  exact hread

/-- **A time stamp with milliseconds denotes the instant for which it was written, cut to whole
milliseconds.** -/
theorem parse?_textMillis {t : Instant} (hclock : t.IsClock) (hyear : t.InFourDigits) :
    parse? t.textMillis = some t.toMillis := by
  have hcalendar : t.toMillis.InCalendar := inCalendar_of_inFourDigits hyear
  obtain ⟨hfirst, hlast⟩ := hyear
  have hmonth : t.date.month ≤ 12 := (Date.monthLength_ofDays (t.seconds / secondsPerDay)).2.1
  have hvalid : t.date.IsValid := Date.isValid_ofDays
    (Int.le_trans (by decide) hfirst) (Int.le_trans hlast (by decide))
  have hoffset : TimeReader.offset (TimeReader.skipBlanks ['Z']) = some (0, []) := by decide
  unfold parse?
  simp only [toList_textMillis, TimeReader.date_text hvalid hmonth hfirst hlast, bind, Option.bind]
  rw [if_pos (by decide)]
  simp only [timeOfDay_clockChars hclock, hoffset, Int.sub_zero, seconds_eq]
  exact if_pos ⟨rfl, hcalendar⟩

end Instant

/-! ## What is read -/

namespace TimeReader

theorem digitsValue_lt {ds : List Char} (h : ∀ c ∈ ds, c.isDigit) :
    digitsValue ds < Nat.pow 10 ds.length := by
  have hfrom : ∀ acc, ds.foldl (fun acc c => acc * 10 + (c.toNat - 0x30)) acc <
      (acc + 1) * Nat.pow 10 ds.length := by
    induction ds with
    | nil => exact fun acc => by simp
    | cons c rest ih =>
      intro acc
      have hdigit : c.toNat - 0x30 ≤ 9 := by
        have hrange : 48 ≤ c.toNat ∧ c.toNat ≤ 57 :=
          Char.isDigit_iff_toNat.mp (h c List.mem_cons_self)
        omega
      have hstep : acc * 10 + (c.toNat - 0x30) + 1 ≤ (acc + 1) * 10 := by omega
      calc rest.foldl _ (acc * 10 + (c.toNat - 0x30))
        _ < (acc * 10 + (c.toNat - 0x30) + 1) * Nat.pow 10 rest.length :=
          ih (fun d hd => h d (List.mem_cons_of_mem c hd)) _
        _ ≤ (acc + 1) * 10 * Nat.pow 10 rest.length := Nat.mul_le_mul_right _ hstep
        _ = (acc + 1) * Nat.pow 10 (c :: rest).length := by
          rw [Nat.mul_assoc, Nat.mul_comm 10]
          rfl
  exact Nat.lt_of_lt_of_eq (hfrom 0) (by rw [Nat.zero_add, Nat.one_mul])

theorem fraction_lt {cs rest : List Char} {nanos : Nat} (h : fraction cs = some (nanos, rest)) :
    nanos < 1000000000 := by
  unfold fraction at h
  split at h
  · next digits =>
    dsimp only at h
    split at h
    · cases h
    · cases h
      obtain ⟨kept, hkept⟩ : ∃ kept, kept = (digits.takeWhile Char.isDigit).take 9 := ⟨_, rfl⟩
      rw [← hkept]
      have hlength : kept.length ≤ 9 := hkept ▸ List.length_take_le _ _
      have hlt : digitsValue kept < Nat.pow 10 kept.length := digitsValue_lt fun c hc =>
        List.all_eq_true.mp List.all_takeWhile c (List.mem_of_mem_take (hkept ▸ hc))
      calc digitsValue kept * Nat.pow 10 (9 - kept.length)
        _ < Nat.pow 10 kept.length * Nat.pow 10 (9 - kept.length) :=
          Nat.mul_lt_mul_of_pos_right hlt (Nat.pow_pos (by decide))
        _ = Nat.pow 10 (kept.length + (9 - kept.length)) := (Nat.pow_add 10 _ _).symm
        _ = 1000000000 := by rw [Nat.add_sub_of_le hlength]
  · cases h
    decide

theorem nanos_lt_of_timeOfDay {cs rest : List Char} {second nanos : Nat}
    (h : timeOfDay cs = some ((second, nanos), rest)) :
    nanos < 1000000000 ∨ nanos < 2000000000 ∧ second % 60 = 59 := by
  unfold timeOfDay at h
  simp only [bind, Option.bind_eq_some_iff, Prod.exists] at h
  obtain ⟨hour, _, -, _, -, minute, _, -, _, -, s, _, -, n, _, hfraction, h⟩ := h
  have hlt := fraction_lt hfraction
  split at h
  · split at h
    · cases h
      omega
    · cases h
      exact Or.inl hlt
  · cases h

theorem offsetSeconds_mod {cs rest : List Char} {n : Nat} (h : offsetSeconds cs = some (n, rest)) :
    n % 60 = 0 := by
  unfold offsetSeconds at h
  split at h
  · split at h
    · split at h
      · split at h
        · cases h
          omega
        · cases h
      · cases h
    · cases h
  · cases h

/-- An offset is a number of whole minutes. -/
theorem offset_mod {cs rest : List Char} {n : Int} (h : offset cs = some (n, rest)) :
    n % 60 = 0 := by
  have hsigned : ∀ {sign : Int} {ds after n},
      ((offsetSeconds ds).bind fun x => if x.1 < 86400 then some (sign * x.1, x.2) else none) =
        some (n, after) → n % 60 = 0 := by
    intro sign ds after n h
    obtain ⟨x, hseconds, h⟩ := Option.bind_eq_some_iff.mp h
    split at h
    · cases h
      have hmod : (x.1 : Int) % 60 = 0 := by
        have hmod := offsetSeconds_mod hseconds
        omega
      rw [Int.mul_emod, hmod, Int.mul_zero]
      rfl
    · cases h
  unfold offset at h
  split at h
  · cases h
  split at h
  · cases h
    rfl
  split at h
  · cases h
    rfl
  split at h
  · exact hsigned h
  split at h
  · exact hsigned h
  · cases h

end TimeReader

namespace Instant

/-- **A time stamp that is read stands on a clock.** -/
theorem isClock_of_parse? {s : String} {t : Instant} (h : parse? s = some t) : t.IsClock := by
  unfold parse? at h
  simp only [bind, Option.bind_eq_some_iff, Prod.exists] at h
  obtain ⟨d, after, -, h⟩ := h
  split at h
  · split at h
    · simp only [Option.bind_eq_some_iff, Prod.exists] at h
      obtain ⟨_, -, second, nanos, rest, htime, offset, rest', hoffset, h⟩ := h
      split at h
      · cases h
        have hmod := TimeReader.offset_mod hoffset
        rcases TimeReader.nanos_lt_of_timeOfDay htime with hlt | ⟨hlt, hlast⟩
        · exact Or.inl hlt
        · refine Or.inr ⟨hlt, ?_⟩
          unfold secondOfDay secondsPerDay
          dsimp only
          omega
      · cases h
    · cases h
  · cases h

end Instant

end AdminConsole
