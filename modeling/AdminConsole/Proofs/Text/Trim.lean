import AdminConsole.Action.Update
import Mathlib.Data.List.TakeWhile

/-! # Trimmed texts

A text is **trimmed** when no blank stands at either end of it.  What `trim`
leaves is trimmed, and trimming changes nothing about a text that is.  Every
check of a text looks at it through `trimChars`, so a check says the same of a
raw text and of what is stored of it.
-/
namespace AdminConsole

namespace Text

/-- Neither the first nor the last character is a blank. -/
structure Trimmed (s : String) : Prop where
  first : ∀ c ∈ s.toList.head?, isBlank c = false
  last : ∀ c ∈ s.toList.getLast?, isBlank c = false

-- The instances are named: others would look at every character there is.
instance (s : String) : Decidable (Trimmed s) :=
  @decidable_of_iff _ ((∀ c ∈ s.toList.head?, isBlank c = false) ∧
      ∀ c ∈ s.toList.getLast?, isBlank c = false)
    ⟨fun h => ⟨h.1, h.2⟩, fun h => ⟨h.first, h.last⟩⟩
    (@instDecidableAnd _ _ (Option.decidableForallMem _) (Option.decidableForallMem _))

/-- A visible ASCII character is no blank. -/
theorem not_isBlank_of_visible {c : Char} (h : 0x21 ≤ c.toNat ∧ c.toNat ≤ 0x7e) :
    isBlank c = false := by
  simp only [isBlank, Bool.or_eq_false_iff, Bool.and_eq_false_iff, decide_eq_false_iff_not,
    beq_eq_false_iff_ne]
  omega

theorem not_isBlank_of_isDigit {c : Char} (h : c.isDigit = true) : isBlank c = false := by
  have hrange : 48 ≤ c.toNat ∧ c.toNat ≤ 57 := Char.isDigit_iff_toNat.mp h
  exact not_isBlank_of_visible (by omega)

/-- The characters after the leading blanks do not start with one. -/
theorem head?_dropWhile_blank {cs : List Char} :
    ∀ c ∈ (cs.dropWhile isBlank).head?, isBlank c = false := by
  intro c hc
  have hnot := List.head?_dropWhile_not isBlank cs
  rw [Option.mem_def.mp hc] at hnot
  simpa using hnot

/-- The last character survives the removal of leading blanks, unless nothing does. -/
theorem getLast?_dropWhile {cs : List Char} :
    ∀ c ∈ (cs.dropWhile isBlank).getLast?, c ∈ cs.getLast? := by
  intro c hc
  have hsuffix : cs.dropWhile isBlank <:+ cs := List.dropWhile_suffix isBlank
  obtain ⟨before, hbefore⟩ := hsuffix
  rw [← hbefore, Option.mem_def, List.getLast?_append, Option.mem_def.mp hc]
  rfl

theorem head?_trimChars (cs : List Char) : ∀ c ∈ (trimChars cs).head?, isBlank c = false := by
  intro c hc
  rw [trimChars, List.head?_reverse] at hc
  have hlast := getLast?_dropWhile c hc
  rw [List.getLast?_reverse] at hlast
  exact head?_dropWhile_blank c hlast

theorem getLast?_trimChars (cs : List Char) :
    ∀ c ∈ (trimChars cs).getLast?, isBlank c = false := by
  intro c hc
  rw [trimChars, List.getLast?_reverse] at hc
  exact head?_dropWhile_blank c hc

theorem trimmed_trim (s : String) : Trimmed (trim s) where
  first := by
    rw [trim, String.toList_ofList]
    exact head?_trimChars s.toList
  last := by
    rw [trim, String.toList_ofList]
    exact getLast?_trimChars s.toList

theorem dropWhile_of_head? {cs : List Char} (h : ∀ c ∈ cs.head?, isBlank c = false) :
    cs.dropWhile isBlank = cs := by
  cases cs with
  | nil => rfl
  | cons c rest => rw [List.dropWhile_cons_of_neg (by simp [h c rfl])]

theorem Trimmed.trimChars_eq {s : String} (h : Trimmed s) : trimChars s.toList = s.toList := by
  have hlast : ∀ c ∈ s.toList.reverse.head?, isBlank c = false := by
    rw [List.head?_reverse]
    exact h.last
  rw [trimChars, dropWhile_of_head? h.first, dropWhile_of_head? hlast, List.reverse_reverse]

/-- A text that is trimmed already is looked at through `trimChars` as it is. -/
theorem trimChars_trim (s : String) : trimChars (trim s).toList = trimChars s.toList := by
  rw [(trimmed_trim s).trimChars_eq, trim, String.toList_ofList]

theorem length_trim (s : String) : (trim s).length = (trimChars s.toList).length := by
  rw [← String.length_toList, trim, String.toList_ofList]

/-- Nothing is left of a blank text only. -/
theorem trim_ne_empty {s : String} (h : ¬ IsBlankText s) : trim s ≠ "" := by
  intro hempty
  have hchars : trimChars s.toList = [] := by
    rw [← trimChars_trim, hempty]
    rfl
  -- What is cut away at the front and then at the back is everything.
  rw [trimChars, List.reverse_eq_nil_iff, List.dropWhile_eq_nil_iff] at hchars
  have hblank : ∀ c ∈ s.toList.dropWhile isBlank, isBlank c = true :=
    fun c hc => hchars c (List.mem_reverse.mpr hc)
  have hnil : s.toList.dropWhile isBlank = [] := by
    cases hrest : s.toList.dropWhile isBlank with
    | nil => rfl
    | cons c rest =>
      have hc : isBlank c = false := head?_dropWhile_blank c (by rw [hrest]; rfl)
      rw [hblank c (by rw [hrest]; exact List.mem_cons_self)] at hc
      cases hc
  exact h (List.dropWhile_eq_nil_iff.mp hnil)

theorem trim_eq_empty_iff (s : String) : trim s = "" ↔ IsBlankText s := by
  constructor
  · exact fun hempty => Decidable.by_contra fun h => trim_ne_empty h hempty
  · intro h
    have hnone : s.toList.dropWhile isBlank = [] := List.dropWhile_eq_nil_iff.mpr h
    rw [trim, trimChars, hnone]
    rfl

/-- Blanks around a text with no blank at either end are all that is trimmed. -/
theorem trimChars_around {before cs after : List Char} (hbefore : ∀ c ∈ before, isBlank c = true)
    (hhead : ∀ c ∈ cs.head?, isBlank c = false) (hlast : ∀ c ∈ cs.getLast?, isBlank c = false)
    (hafter : ∀ c ∈ after, isBlank c = true) : trimChars (before ++ cs ++ after) = cs := by
  have hfront : (before ++ cs ++ after).dropWhile isBlank = (cs ++ after).dropWhile isBlank := by
    rw [List.append_assoc, List.dropWhile_append_of_pos hbefore]
  rw [trimChars, hfront]
  cases cs with
  | nil =>
    rw [List.nil_append, List.dropWhile_eq_nil_iff.mpr hafter]
    rfl
  | cons c rest =>
    have hback : ∀ c ∈ after.reverse, isBlank c = true :=
      fun c hc => hafter c (List.mem_reverse.mp hc)
    have hfirst : ∀ d ∈ (c :: rest ++ after).head?, isBlank d = false := hhead
    have hend : ∀ d ∈ (c :: rest).reverse.head?, isBlank d = false := by
      rw [List.head?_reverse]
      exact hlast
    rw [dropWhile_of_head? hfirst, List.reverse_append, List.dropWhile_append_of_pos hback,
      dropWhile_of_head? hend, List.reverse_reverse]

/-- Blanks around characters that are no blanks are all that is trimmed. -/
theorem trimChars_between {before cs after : List Char} (hbefore : ∀ c ∈ before, isBlank c = true)
    (hcs : ∀ c ∈ cs, isBlank c = false) (hafter : ∀ c ∈ after, isBlank c = true) :
    trimChars (before ++ cs ++ after) = cs :=
  trimChars_around hbefore (fun c hc => hcs c (List.mem_of_mem_head? hc))
    (fun c hc => hcs c (List.mem_of_getLast? hc)) hafter

/-- What is left of a text once it is trimmed has nothing but blanks around it there. -/
theorem exists_blanks_around (cs : List Char) : ∃ before after : List Char,
    (∀ c ∈ before, isBlank c = true) ∧ (∀ c ∈ after, isBlank c = true) ∧
      before ++ trimChars cs ++ after = cs := by
  refine ⟨cs.takeWhile isBlank, ((cs.dropWhile isBlank).reverse.takeWhile isBlank).reverse,
    fun c hc => List.mem_takeWhile_imp hc,
    fun c hc => List.mem_takeWhile_imp (List.mem_reverse.mp hc), ?_⟩
  rw [trimChars, List.append_assoc, ← List.reverse_append, List.takeWhile_append_dropWhile,
    List.reverse_reverse, List.takeWhile_append_dropWhile]

end Text

theorem isPlausibleEmail_trim (s : String) :
    isPlausibleEmail (Text.trim s) = isPlausibleEmail s := by
  rw [isPlausibleEmail, isPlausibleEmail, Text.trimChars_trim]

end AdminConsole
