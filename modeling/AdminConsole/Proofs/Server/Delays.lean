import AdminConsole.Proofs.Server.Environment
import AdminConsole.Proofs.Text.Pieces

/-! # The grammar of a list of delays

A list of delays is written as entries with commas between them.  An entry is
blank, and adds no delay, or it is a decimal numeral of a word with blanks around
it, and adds that many seconds (`Config.Entry`).  A text that is no such list has
a first entry that is neither: something is left of it once it is trimmed, and
that is no numeral of a word (`Config.BreaksOff`).

`Config.delays` returns the delays of a text that lists some, and of every other
text it names this entry and says what is wrong with it (`Config.delays_grammar`).
-/
namespace AdminConsole

namespace Config

variable {s piece : String} {cs : List Char} {entries : List (List Char)} {n : Nat}
variable {fault : NumeralFault}

/-- What may stand between two commas of a list of delays, and the delay that it adds. -/
inductive Entry : List Char → Option Nat → Prop
  /-- Nothing but blanks. -/
  | blank {cs : List Char} (hcs : ∀ c ∈ cs, Text.isBlank c = true) : Entry cs none
  /-- A number in decimal behind any number of zeros and perhaps a plus sign, and blanks around. -/
  | numeral {before sign after : List Char} {zeros n : Nat}
      (hbefore : ∀ c ∈ before, Text.isBlank c = true) (hsign : sign = [] ∨ sign = ['+'])
      (hn : n < UInt64.size) (hafter : ∀ c ∈ after, Text.isBlank c = true) :
      Entry (before ++ (sign ++ (List.replicate zeros '0' ++ Nat.toDigits 10 n)) ++ after) (some n)

/-- The text consists of entries, at least one, with commas between them, and they add the delays
in this order. -/
def Lists (s : String) (ns : List Nat) : Prop :=
  ∃ entries values, entries ≠ [] ∧ List.Forall₂ Entry entries values ∧
    [','].intercalate entries = s.toList ∧ values.reduceOption = ns

/-- The text of an entry is not blank and no numeral of a word, and this is what is wrong with it:
it is nothing but a plus sign, or a character behind the sign is no digit, or the digits denote
too great a number. -/
structure IsBad (piece : String) (fault : NumeralFault) : Prop where
  nonempty : piece ≠ ""
  isTrimmed : Text.Trimmed piece
  wrong : (Numeral.unsignedPart piece = [] ∧ fault = .badDigit) ∨
    Numeral.Flaw Numeral.word64 .tooLarge 0 (Numeral.unsignedPart piece) fault

/-- Behind entries that are all right, the text has one that is not: this piece with blanks around
it. -/
def BreaksOff (s piece : String) (fault : NumeralFault) : Prop :=
  ∃ entries lead trail more,
    [','].intercalate (entries ++ (lead ++ piece.toList ++ trail) :: more) = s.toList ∧
    (∀ cs ∈ entries, ∃ value, Entry cs value) ∧ (∀ cs ∈ piece.toList :: more, ',' ∉ cs) ∧
    (∀ c ∈ lead ++ trail, Text.isBlank c = true) ∧ IsBad piece fault

/-! ## One entry -/

/-- An entry as it is read. -/
def trimmed (cs : List Char) : String := String.ofList (Text.trimChars cs)

theorem entry_none_iff : Entry cs none ↔ trimmed cs = "" := by
  have hblank := Text.trim_eq_empty_iff (String.ofList cs)
  rw [Text.trim, Text.IsBlankText, String.toList_ofList] at hblank
  rw [trimmed, hblank]
  exact ⟨fun h => by cases h with | blank hcs => exact hcs, .blank⟩

/-- Only digits stand in a numeral, but for its sign. -/
theorem mem_numeral {sign : List Char} {zeros : Nat} (hsign : sign = [] ∨ sign = ['+']) {c : Char}
    (hc : c ∈ sign ++ (List.replicate zeros '0' ++ Nat.toDigits 10 n)) :
    c = '+' ∨ c.isDigit = true := by
  have hdigits := (Numeral.isDigits_iff.mpr ⟨zeros, rfl⟩ : Numeral.IsDigits _ n).digits
  rcases List.mem_append.mp hc with hc | hc
  · rcases hsign with rfl | rfl
    · cases hc
    · exact Or.inl (List.mem_singleton.mp hc)
  · exact Or.inr (hdigits c hc)

theorem entry_some_iff : Entry cs (some n) ↔ delay (trimmed cs) = .ok n := by
  rw [delay_eq_ok_iff, Numeral.isNatural_iff, trimmed, String.toList_ofList]
  constructor
  · intro h
    cases h with
    | numeral hbefore hsign hn hafter =>
      refine ⟨⟨_, _, hsign, Text.trimChars_between hbefore (fun c hc => ?_) hafter⟩, hn⟩
      rcases mem_numeral hsign hc with rfl | hdigit
      · decide
      · exact Text.not_isBlank_of_isDigit hdigit
  · rintro ⟨⟨sign, zeros, hsign, hcs⟩, hn⟩
    obtain ⟨before, after, hbefore, hafter, hsplit⟩ := Text.exists_blanks_around cs
    rw [← hsplit, hcs]
    exact .numeral hbefore hsign hn hafter

/-- An entry adds one delay at most. -/
theorem Entry.unique {value other : Option Nat} (h : Entry cs value) (h' : Entry cs other) :
    value = other := by
  have hblank : ∀ n, Entry cs none → ¬ Entry cs (some n) := by
    intro n hnone hsome
    rw [entry_none_iff] at hnone
    rw [entry_some_iff, hnone] at hsome
    cases hsome
  cases value with
  | none =>
    cases other with
    | none => rfl
    | some n => exact absurd h' (hblank n h)
  | some n =>
    cases other with
    | none => exact absurd h (hblank n h')
    | some m => exact congrArg some (Except.ok.inj ((entry_some_iff.mp h).symm.trans
        (entry_some_iff.mp h')))

theorem not_comma_of_isBlank {c : Char} (h : Text.isBlank c = true) : c ≠ ',' := by
  rintro rfl
  cases h

theorem Entry.comma_not_mem {value : Option Nat} (h : Entry cs value) : ',' ∉ cs := by
  have hother : ∀ c ∈ cs, c ≠ ',' := by
    cases h with
    | blank hcs => exact fun c hc => not_comma_of_isBlank (hcs c hc)
    | numeral hbefore hsign hn hafter =>
      refine List.forall_mem_append.mpr ⟨List.forall_mem_append.mpr
        ⟨fun c hc => not_comma_of_isBlank (hbefore c hc), fun c hc => ?_⟩,
        fun c hc => not_comma_of_isBlank (hafter c hc)⟩
      rcases mem_numeral hsign hc with rfl | hdigit
      · decide
      · rintro rfl
        cases hdigit
  exact fun hmem => hother ',' hmem rfl

theorem IsBad.delay_eq (h : IsBad piece fault) : delay piece = .error (.badDelay piece fault) := by
  rw [delay, (Numeral.natural_eq_error_iff h.nonempty).mpr h.wrong]

/-- **What stands between two commas is an entry, or bad.** -/
theorem entry_or_bad (cs : List Char) :
    (∃ value, Entry cs value) ∨ ∃ fault, IsBad (trimmed cs) fault := by
  by_cases hempty : trimmed cs = ""
  · exact Or.inl ⟨none, entry_none_iff.mpr hempty⟩
  cases hread : Numeral.natural Numeral.word64 (trimmed cs) with
  | ok n =>
    refine Or.inl ⟨some n, entry_some_iff.mpr ?_⟩
    rw [delay, hread]
  | error fault =>
    have htrimmed : Text.Trimmed (trimmed cs) := by
      have htrim := Text.trimmed_trim (String.ofList cs)
      rwa [Text.trim, String.toList_ofList] at htrim
    exact Or.inr ⟨fault, hempty, htrimmed, (Numeral.natural_eq_error_iff hempty).mp hread⟩

theorem IsBad.not_entry (h : IsBad (trimmed cs) fault) (value : Option Nat) : ¬ Entry cs value := by
  intro hentry
  cases value with
  | none => exact h.nonempty (entry_none_iff.mp hentry)
  | some n =>
    have hread := entry_some_iff.mp hentry
    rw [h.delay_eq] at hread
    cases hread

/-! ## All entries -/

/-- What is read of the entries of a list. -/
def readEntries (entries : List (List Char)) : Except ConfigError (List Nat) :=
  ((entries.map trimmed).filter (· ≠ "")).mapM delay

theorem delays_eq (s : String) : delays s = readEntries (Text.pieces ',' s.toList) := rfl

theorem readEntries_cons_of_entry {value : Option Nat} (h : Entry cs value) :
    readEntries (cs :: entries) = (readEntries entries).map (value.toList ++ ·) := by
  cases value with
  | none =>
    rw [readEntries, List.map_cons, List.filter_cons_of_neg (by simp [entry_none_iff.mp h])]
    show readEntries entries = _
    cases readEntries entries <;> rfl
  | some n =>
    have hread := entry_some_iff.mp h
    have hne : trimmed cs ≠ "" := by
      intro hempty
      rw [hempty] at hread
      cases hread
    rw [readEntries, List.map_cons, List.filter_cons_of_pos (by simp [hne]), List.mapM_cons, hread]
    rfl

theorem readEntries_cons_of_bad (h : IsBad (trimmed cs) fault) :
    readEntries (cs :: entries) = .error (.badDelay (trimmed cs) fault) := by
  rw [readEntries, List.map_cons, List.filter_cons_of_pos (by simp [h.nonempty]), List.mapM_cons,
    h.delay_eq]
  rfl

/-- **Entries are read to the delays that they add.** -/
theorem readEntries_eq_ok_iff {ns : List Nat} : readEntries entries = .ok ns ↔
    ∃ values, List.Forall₂ Entry entries values ∧ values.reduceOption = ns := by
  have hadd : ∀ (value : Option Nat) values,
      (value :: values).reduceOption = value.toList ++ values.reduceOption := by
    rintro (_ | n) values <;> rfl
  induction entries generalizing ns with
  | nil =>
    constructor
    · intro h
      exact ⟨[], .nil, Except.ok.inj h⟩
    · rintro ⟨values, hvalues, rfl⟩
      cases hvalues
      rfl
  | cons cs entries ih =>
    rcases entry_or_bad cs with ⟨value, hvalue⟩ | ⟨fault, hbad⟩
    · rw [readEntries_cons_of_entry hvalue, map_eq_ok_iff]
      constructor
      · rintro ⟨ms, hms, rfl⟩
        obtain ⟨values, hvalues, rfl⟩ := ih.mp hms
        exact ⟨value :: values, .cons hvalue hvalues, hadd value values⟩
      · rintro ⟨_, _ | ⟨hentry, hvalues⟩, rfl⟩
        obtain rfl := hvalue.unique hentry
        exact ⟨_, ih.mpr ⟨_, hvalues, rfl⟩, (hadd _ _).symm⟩
    · rw [readEntries_cons_of_bad hbad]
      refine iff_of_false (fun h => by cases h) ?_
      rintro ⟨_, _ | ⟨hentry, -⟩, -⟩
      exact hbad.not_entry _ hentry

/-- **Entries are refused for the first one that is bad.** -/
theorem readEntries_eq_error_iff {e : ConfigError} : readEntries entries = .error e ↔
    ∃ before cs more fault, entries = before ++ cs :: more ∧
      (∀ cs ∈ before, ∃ value, Entry cs value) ∧ IsBad (trimmed cs) fault ∧
        e = .badDelay (trimmed cs) fault := by
  induction entries with
  | nil => exact iff_of_false (fun h => by cases h) (by simp)
  | cons cs entries ih =>
    constructor
    · intro h
      rcases entry_or_bad cs with ⟨value, hvalue⟩ | ⟨fault, hbad⟩
      · rw [readEntries_cons_of_entry hvalue] at h
        obtain ⟨before, bad, more, fault, rfl, hbefore, hbad⟩ := ih.mp (error_of_map h)
        exact ⟨cs :: before, bad, more, fault, rfl,
          List.forall_mem_cons.mpr ⟨⟨value, hvalue⟩, hbefore⟩, hbad⟩
      · rw [readEntries_cons_of_bad hbad] at h
        exact ⟨[], cs, entries, fault, rfl, fun _ hcs => absurd hcs List.not_mem_nil, hbad,
          (Except.error.inj h).symm⟩
    · rintro ⟨before, bad, more, fault, hsplit, hbefore, hbad, rfl⟩
      cases before with
      | nil =>
        obtain ⟨rfl, rfl⟩ := List.cons.inj hsplit
        exact readEntries_cons_of_bad hbad
      | cons first before =>
        obtain ⟨rfl, hrest⟩ := List.cons.inj hsplit
        obtain ⟨⟨value, hvalue⟩, hbefore⟩ := List.forall_mem_cons.mp hbefore
        rw [readEntries_cons_of_entry hvalue, ih.mpr ⟨before, bad, more, fault, hrest, hbefore,
          hbad, rfl⟩]
        rfl

/-! ## The text -/

theorem delays_eq_ok_iff_lists {ns : List Nat} : delays s = .ok ns ↔ Lists s ns := by
  rw [delays_eq, readEntries_eq_ok_iff]
  constructor
  · rintro ⟨values, hvalues, hns⟩
    obtain ⟨hne, -, hjoin⟩ := Text.pieces_eq_iff.mp (rfl : Text.pieces ',' s.toList = _)
    exact ⟨_, values, hne, hvalues, hjoin, hns⟩
  · rintro ⟨entries, values, hne, hvalues, hjoin, hns⟩
    have hcomma : ∀ cs ∈ entries, ',' ∉ cs := by
      clear hne hjoin hns
      induction hvalues with
      | nil => exact fun _ hcs => absurd hcs List.not_mem_nil
      | cons hentry _ ih => exact List.forall_mem_cons.mpr ⟨hentry.comma_not_mem, ih⟩
    rw [Text.pieces_eq_iff.mpr ⟨hne, hcomma, hjoin⟩]
    exact ⟨values, hvalues, hns⟩

/-- A piece with blanks around it is what is left of it once it is trimmed. -/
theorem trimmed_of_blanks {lead trail : List Char}
    (hblank : ∀ c ∈ lead ++ trail, Text.isBlank c = true) (h : Text.Trimmed piece) :
    trimmed (lead ++ piece.toList ++ trail) = piece := by
  obtain ⟨hlead, htrail⟩ := List.forall_mem_append.mp hblank
  rw [trimmed, Text.trimChars_around hlead h.first h.last htrail, String.ofList_toList]

/-- Blanks around a piece bring no comma into it. -/
theorem comma_not_mem_around {lead trail : List Char}
    (hblank : ∀ c ∈ lead ++ trail, Text.isBlank c = true) :
    ',' ∉ lead ++ cs ++ trail ↔ ',' ∉ cs := by
  have hother : ∀ c ∈ lead ++ trail, c ≠ ',' := fun c hc => not_comma_of_isBlank (hblank c hc)
  simp only [List.mem_append, not_or]
  exact ⟨fun h => h.1.2, fun h => ⟨⟨fun hc => hother _ (List.mem_append_left trail hc) rfl, h⟩,
    fun hc => hother _ (List.mem_append_right lead hc) rfl⟩⟩

theorem delays_eq_error_iff {e : ConfigError} :
    delays s = .error e ↔ ∃ piece fault, BreaksOff s piece fault ∧ e = .badDelay piece fault := by
  rw [delays_eq, readEntries_eq_error_iff]
  constructor
  · rintro ⟨before, cs, more, fault, hpieces, hbefore, hbad, rfl⟩
    obtain ⟨-, hcomma, hjoin⟩ := Text.pieces_eq_iff.mp hpieces
    obtain ⟨lead, trail, hlead, htrail, hsplit⟩ := Text.exists_blanks_around cs
    have hpiece : (trimmed cs).toList = Text.trimChars cs := String.toList_ofList
    have hblank := List.forall_mem_append.mpr ⟨hlead, htrail⟩
    refine ⟨trimmed cs, fault, ⟨before, lead, trail, more, ?_, hbefore, ?_, hblank, hbad⟩, rfl⟩
    · rw [hpiece, hsplit, hjoin]
    · obtain ⟨hcs, hmore⟩ := List.forall_mem_cons.mp (List.forall_mem_append.mp hcomma).2
      rw [← hsplit, comma_not_mem_around hblank, ← hpiece] at hcs
      exact List.forall_mem_cons.mpr ⟨hcs, hmore⟩
  · rintro ⟨piece, fault, ⟨before, lead, trail, more, hjoin, hbefore, hcomma, hblank, hbad⟩, rfl⟩
    have hpiece := trimmed_of_blanks hblank hbad.isTrimmed
    refine ⟨before, lead ++ piece.toList ++ trail, more, fault, ?_, hbefore, ?_, ?_⟩
    · obtain ⟨hpiececomma, hmore⟩ := List.forall_mem_cons.mp hcomma
      refine Text.pieces_eq_iff.mpr ⟨by simp, ?_, hjoin⟩
      refine List.forall_mem_append.mpr ⟨fun cs hcs => ?_, List.forall_mem_cons.mpr
        ⟨(comma_not_mem_around hblank).mpr hpiececomma, hmore⟩⟩
      obtain ⟨value, hvalue⟩ := hbefore cs hcs
      exact hvalue.comma_not_mem
    · rwa [hpiece]
    · rw [hpiece]

/-- **The grammar of a list of delays.**  A text is read to the delays that it lists.  It is
refused if its entries break off at a bad one, by the name of this piece and for what is wrong with
it.  Every text is one or the other. -/
theorem delays_grammar (s : String) :
    (∀ ns, delays s = .ok ns ↔ Lists s ns) ∧
    (∀ piece fault, delays s = .error (.badDelay piece fault) ↔ BreaksOff s piece fault) ∧
    ((∃ ns, Lists s ns) ∨ ∃ piece fault, BreaksOff s piece fault ∧
      delays s = .error (.badDelay piece fault)) := by
  refine ⟨fun ns => delays_eq_ok_iff_lists, fun piece fault => ?_, ?_⟩
  · rw [delays_eq_error_iff]
    constructor
    · rintro ⟨piece, fault, hbreaks, heq⟩
      cases heq
      exact hbreaks
    · exact fun hbreaks => ⟨piece, fault, hbreaks, rfl⟩
  · cases hread : delays s with
    | ok ns => exact Or.inl ⟨ns, delays_eq_ok_iff_lists.mp hread⟩
    | error e =>
      obtain ⟨piece, fault, hbreaks, rfl⟩ := delays_eq_error_iff.mp hread
      exact Or.inr ⟨piece, fault, hbreaks, rfl⟩

example : delays " +007 ,,\u20031\u3000,18446744073709551615," =
    .ok [7, 1, 18446744073709551615] := by decide +kernel

example : delays "1,, 2 3 ,soon" = .error (.badDelay "2 3" .badDigit) := by decide +kernel

end Config

end AdminConsole
