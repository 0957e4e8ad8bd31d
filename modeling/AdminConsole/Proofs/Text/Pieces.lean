import AdminConsole.Text.Split
import Mathlib.Data.List.TakeWhile

/-! # Texts and their pieces

There is one way to write a text as parts with separators between them and none
inside, and `pieces` finds it (`pieces_eq_iff`).  The first piece is what stands
before the first separator (`upTo_eq_iff`).
-/
namespace AdminConsole.Text

variable {α : Type} [BEq α] [LawfulBEq α] {separator : α} {cs first : List α} {ps : List (List α)}

omit [LawfulBEq α] in
theorem pieces_eq_splitOn (separator : α) (cs : List α) :
    pieces separator cs = cs.splitOn separator := by
  induction cs with
  | nil => rfl
  | cons c rest ih =>
    rw [pieces, List.splitOn_cons_eq_if_modifyHead, ih]
    cases hrest : rest.splitOn separator with
    | nil => exact absurd hrest (List.splitOn_ne_nil separator rest)
    | cons piece more => rfl

theorem not_mem_of_mem_pieces {p : List α} (hp : p ∈ pieces separator cs) : separator ∉ p := by
  induction cs generalizing p with
  | nil =>
    obtain rfl := List.mem_singleton.mp hp
    exact List.not_mem_nil
  | cons c rest ih =>
    rw [pieces] at hp
    split at hp
    · rcases List.mem_cons.mp hp with rfl | hp
      · exact List.not_mem_nil
      · exact ih hp
    · next hc =>
      have hc : separator ≠ c := fun h => hc (beq_iff_eq.mpr h.symm)
      split at hp
      · obtain rfl := List.mem_singleton.mp hp
        exact fun h => hc (List.mem_singleton.mp h)
      · next piece more hmore =>
        rw [hmore] at ih
        rcases List.mem_cons.mp hp with rfl | hp
        · exact fun h => (List.mem_cons.mp h).elim hc (ih List.mem_cons_self)
        · exact ih (List.mem_cons_of_mem piece hp)

/-- **A text is its pieces with separators between them, and no other parts without separators
are.** -/
theorem pieces_eq_iff : pieces separator cs = ps ↔
    ps ≠ [] ∧ (∀ p ∈ ps, separator ∉ p) ∧ [separator].intercalate ps = cs := by
  constructor
  · rintro rfl
    refine ⟨?_, fun p hp => not_mem_of_mem_pieces hp, ?_⟩
    · rw [pieces_eq_splitOn]
      exact List.splitOn_ne_nil separator cs
    · rw [pieces_eq_splitOn]
      exact List.intercalate_splitOn separator
  · rintro ⟨hne, hps, rfl⟩
    rw [pieces_eq_splitOn]
    exact List.splitOn_intercalate separator hps hne

omit [BEq α] [LawfulBEq α] in
/-- Joined parts start with the first of them. -/
theorem exists_intercalate_cons (separator : α) (p : List α) (ps : List (List α)) :
    ∃ rest, [separator].intercalate (p :: ps) = p ++ rest := by
  cases ps with
  | nil => exact ⟨[], by rw [List.intercalate_singleton, List.append_nil]⟩
  | cons q ps => exact ⟨_, by rw [List.intercalate_cons_cons, List.append_assoc]⟩

omit [BEq α] [LawfulBEq α] in
/-- Between parts with separators there is nothing else. -/
theorem mem_intercalate {c : α} (h : c ∈ [separator].intercalate ps) :
    c = separator ∨ ∃ p ∈ ps, c ∈ p := by
  induction ps with
  | nil => cases h
  | cons p ps ih =>
    have hlater : c ∈ [separator].intercalate ps → c = separator ∨ ∃ q ∈ p :: ps, c ∈ q := fun h =>
      (ih h).imp_right fun ⟨q, hq, hc⟩ => ⟨q, List.mem_cons_of_mem p hq, hc⟩
    cases ps with
    | nil =>
      rw [List.intercalate_singleton] at h
      exact Or.inr ⟨p, List.mem_cons_self, h⟩
    | cons q ps =>
      rw [List.intercalate_cons_cons, List.mem_append, List.mem_append] at h
      rcases h with (h | h) | h
      · exact Or.inr ⟨p, List.mem_cons_self, h⟩
      · exact Or.inl (List.mem_singleton.mp h)
      · exact hlater h

/-- What stands before the first separator ends there, or with the text. -/
theorem upTo_eq_iff : upTo separator cs = first ↔
    separator ∉ first ∧ (cs = first ∨ ∃ rest, cs = first ++ separator :: rest) := by
  unfold upTo
  constructor
  · rintro rfl
    refine ⟨fun hmem => by simpa using List.mem_takeWhile_imp hmem, ?_⟩
    have hsplit := cs.takeWhile_append_dropWhile (p := fun c => !(c == separator))
    have hhead := List.head?_dropWhile_not (fun c => !(c == separator)) cs
    cases hrest : cs.dropWhile fun c => !(c == separator) with
    | nil => exact Or.inl (by rw [hrest, List.append_nil] at hsplit; exact hsplit.symm)
    | cons c rest =>
      rw [hrest] at hsplit hhead
      obtain rfl : c = separator := by simpa using hhead
      exact Or.inr ⟨rest, hsplit.symm⟩
  · rintro ⟨hnot, hcs⟩
    have hfirst : ∀ c ∈ first, (!(c == separator)) = true := by
      intro c hc
      rw [Bool.not_eq_true', beq_eq_false_iff_ne]
      rintro rfl
      exact hnot hc
    rcases hcs with rfl | ⟨rest, rfl⟩
    · exact List.takeWhile_eq_self_iff.mpr hfirst
    · rw [List.takeWhile_append_of_pos hfirst, List.takeWhile_cons_of_neg (by simp),
        List.append_nil]

/-- What follows a separator stands behind what is before the first. -/
theorem upTo_append_separator (separator : α) (cs rest : List α) :
    upTo separator (cs ++ separator :: rest) = upTo separator cs := by
  generalize hfirst : upTo separator cs = first
  obtain ⟨hnot, rfl | ⟨more, rfl⟩⟩ := upTo_eq_iff.mp hfirst
  · exact upTo_eq_iff.mpr ⟨hnot, Or.inr ⟨rest, rfl⟩⟩
  · exact upTo_eq_iff.mpr ⟨hnot, Or.inr ⟨more ++ separator :: rest, by
      rw [List.append_assoc, List.cons_append]⟩⟩

end AdminConsole.Text
