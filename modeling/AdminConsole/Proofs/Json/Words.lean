import AdminConsole.Json.Token
import AdminConsole.Json.Writer
import AdminConsole.Proofs.Text.Identifier

/-! # The words of a written text

Characters **spell** words (`Token.Spells`) when they are scanned as these words
whatever follows them.  Spelling is compositional: each bracket, comma and colon
spells its own word, a string spells one word with its text
(`Token.Spells.string`), and characters one after the other spell the words one
after the other (`Token.Spells.append`).

A string is read back because every character is written as one piece that
stands for it (`Token.exists_piece`), be it by itself, by a letter after a
backslash, or by the number of its unit.
-/
namespace AdminConsole.Json

namespace Token

variable {c : Char} {rest : List (Option Char)}

/-! ## The pieces of a string -/

/-- A unit that is no half of a pair is a character by itself. -/
theorem characters?_unit {n : Nat} (h : n < 0xd800) (ps : List Piece) :
    characters? (.unit n :: ps) = (characters? ps).map (Char.ofNat n :: ·) := by
  have hhigh : isHighUnit n = false := by
    unfold isHighUnit
    simp only [Bool.and_eq_false_iff, decide_eq_false_iff_not]
    omega
  have hlow : isLowUnit n = false := by
    unfold isLowUnit
    simp only [Bool.and_eq_false_iff, decide_eq_false_iff_not]
    omega
  cases ps with
  | nil => simp [characters?, hhigh, hlow]
  | cons p ps => cases p <;> simp [characters?, hhigh, hlow]

theorem pieces_letter {e : Char} (h : letterEscape? e = some c) :
    pieces (some '\\' :: some e :: rest) = (pieces rest).map fun x => (.char c :: x.1, x.2) := by
  have hu : e ≠ 'u' := by
    rintro rfl
    cases h
  rw [pieces, h]
  intro _ _ _ _ _ _ he
  exact hu he

theorem pieces_unit {n : Nat} (h : n < 0x10000) :
    pieces (some '\\' :: some 'u' :: ((Hex.fixed 4 n).map some ++ rest)) =
      (pieces rest).map fun x => (.unit n :: x.1, x.2) := by
  have hnumber := Hex.number?_fixed 4 n
  rw [Nat.mod_eq_of_lt h] at hnumber
  unfold Hex.fixed Hex.fixed Hex.fixed Hex.fixed Hex.fixed at hnumber ⊢
  simp only [List.nil_append, List.cons_append, List.map_cons, List.map_nil] at hnumber ⊢
  rw [pieces, hnumber]

theorem pieces_char (hquote : c ≠ '"') (hslash : c ≠ '\\') (hcontrol : ¬ c.toNat < 0x20) :
    pieces (some c :: rest) = (pieces rest).map fun x => (.char c :: x.1, x.2) := by
  rw [pieces, if_neg, if_neg]
  · rw [Bool.or_eq_true, decide_eq_true_iff, beq_iff_eq]
    exact not_or_intro hcontrol hslash
  · rw [beq_iff_eq]
    exact hquote
  · exact fun _ _ _ _ _ _ hc => hslash hc
  · exact fun _ _ _ hc => hslash hc

/-- A character is written as one piece, which stands for it. -/
theorem exists_piece (c : Char) : ∃ p,
    (∀ rest, pieces ((escapedChar c).map some ++ rest) =
      (pieces rest).map fun x => (p :: x.1, x.2)) ∧
    ∀ ps, characters? (p :: ps) = (characters? ps).map (c :: ·) := by
  -- An escape by a letter, for the character of the given number.
  have hletter : ∀ e n, letterEscape? e = some (Char.ofNat n) → c.toNat = n →
      ∃ p, (∀ rest, pieces (some '\\' :: some e :: rest) =
        (pieces rest).map fun x => (p :: x.1, x.2)) ∧
        ∀ ps, characters? (p :: ps) = (characters? ps).map (c :: ·) := by
    intro e n he hn
    rw [← hn, Char.ofNat_toNat] at he
    exact ⟨.char c, fun rest => pieces_letter he, fun ps => rfl⟩
  unfold escapedChar
  split
  · next h => exact hletter '"' 0x22 rfl (by rw [beq_iff_eq.mp h]; rfl)
  next hquote =>
  split
  · next h => exact hletter '\\' 0x5c rfl (by rw [beq_iff_eq.mp h]; rfl)
  next hslash =>
  split
  · next h => exact hletter 'b' 8 rfl h
  split
  · next h => exact hletter 't' 9 rfl h
  split
  · next h => exact hletter 'n' 10 rfl h
  split
  · next h => exact hletter 'f' 12 rfl h
  split
  · next h => exact hletter 'r' 13 rfl h
  split
  · next h =>
    refine ⟨.unit c.toNat, fun rest => pieces_unit (by omega), fun ps => ?_⟩
    rw [characters?_unit (by omega), Char.ofNat_toNat]
  · next h =>
    rw [beq_iff_eq] at hquote hslash
    exact ⟨.char c, fun rest => pieces_char hquote hslash h, fun ps => rfl⟩

/-- **A string is read up to its closing quote, and read as what was written.** -/
theorem pieces_escaped (cs : List Char) (rest : List (Option Char)) : ∃ ps,
    pieces ((cs.flatMap escapedChar).map some ++ some '"' :: rest) = some (ps, rest) ∧
      characters? ps = some cs := by
  induction cs with
  | nil => exact ⟨[], by simp [pieces], rfl⟩
  | cons c cs ih =>
    obtain ⟨ps, hps, hchars⟩ := ih
    obtain ⟨p, hp, hchar⟩ := exists_piece c
    refine ⟨p :: ps, ?_, ?_⟩
    · rw [List.flatMap_cons, List.map_append, List.append_assoc, hp, hps]
      rfl
    · rw [hchar, hchars]
      rfl

/-! ## Spelling -/

/-- The characters are scanned as the words, whatever follows them.  A word has at least one
character, so that scanning a whole text never ends before the text. -/
structure Spells (cs : List Char) (ts : List Token) : Prop where
  scan : ∀ fuel rest,
    scanWithin (fuel + ts.length) (cs.map some ++ rest) = ts ++ scanWithin fuel rest
  length_le : ts.length ≤ cs.length

/-- A text is scanned as the words that it spells. -/
theorem ofText_eq {s : String} {ts : List Token} (h : Spells s.toList ts) : ofText s = ts := by
  have hscan := h.scan (s.toList.length - ts.length) []
  have hend : ∀ fuel, scanWithin fuel [] = [] := fun fuel => by cases fuel <;> rfl
  rw [Nat.sub_add_cancel h.length_le, List.append_nil, hend, List.append_nil] at hscan
  unfold ofText Token.scan
  rw [List.length_map, hscan]

namespace Spells

variable {cs ds : List Char} {ts us : List Token} {t : Token}

theorem append (h : Spells cs ts) (h' : Spells ds us) : Spells (cs ++ ds) (ts ++ us) where
  scan fuel rest := by
    rw [List.map_append, List.append_assoc, List.length_append, Nat.add_comm ts.length,
      ← Nat.add_assoc, h.scan, h'.scan, List.append_assoc]
  length_le := by
    rw [List.length_append, List.length_append]
    exact Nat.add_le_add h.length_le h'.length_le

/-- A word by itself. -/
theorem word (hc : isSpace c = false)
    (h : ∀ rest, word? c (cs.map some ++ rest) = some (t, rest)) : Spells (c :: cs) [t] where
  scan fuel rest := by
    show scanWithin (fuel + 1) (some c :: (cs.map some ++ rest)) = t :: scanWithin fuel rest
    rw [scanWithin, hc, h]
    rfl
  length_le := Nat.le_add_left 1 _

theorem openBrace : Spells ['\x7b'] [.openBrace] := word rfl fun _ => rfl

theorem closeBrace : Spells ['\x7d'] [.closeBrace] := word rfl fun _ => rfl

theorem comma : Spells [','] [.comma] := word rfl fun _ => rfl

theorem colon : Spells [':'] [.colon] := word rfl fun _ => rfl

/-- **A string spells its text.** -/
theorem string (s : String) : Spells (renderString s).toList [.str (some s)] := by
  unfold renderString
  rw [String.toList_ofList]
  refine word rfl fun rest => ?_
  obtain ⟨ps, hps, hchars⟩ := pieces_escaped s.toList rest
  rw [List.map_append, List.append_assoc]
  show (pieces ((s.toList.flatMap escapedChar).map some ++ some '"' :: rest)).map _ = _
  rw [hps, Option.map_some]
  dsimp only
  rw [hchars, Option.map_some, String.ofList_toList]

end Spells

end Token

end AdminConsole.Json
