import Mathlib.Data.List.NodupEquivFin

/-! # One of many at its place

Things that are known by their place in a list: what is at a place after one of
them is replaced, and when there is one of which something holds.
-/
namespace AdminConsole

section Place

variable {α β γ : Type} {xs : List α} {number : Nat} {a b : α} {p : α → Prop}

theorem getElem?_set_eq_some (h : xs[number]? = some a) {k : Nat} {x : α} :
    (xs.set number b)[k]? = some x ↔ (k = number ∧ x = b) ∨ (k ≠ number ∧ xs[k]? = some x) := by
  have hlt : number < xs.length := (List.getElem?_eq_some_iff.mp h).1
  rw [List.getElem?_set]
  by_cases hk : number = k
  · subst k
    simp only [↓reduceIte, hlt, Option.some.injEq, true_and, ne_eq, not_true_eq_false, false_and,
      or_false]
    exact eq_comm
  · rw [if_neg hk]
    constructor
    · exact fun hx => Or.inr ⟨fun he => hk he.symm, hx⟩
    · rintro (⟨he, -⟩ | ⟨-, hx⟩)
      · exact absurd he.symm hk
      · exact hx

/-- One may be replaced by another of which the same holds. -/
theorem exists_set_iff (h : xs[number]? = some a) (hp : p b ↔ p a) (k : Nat) :
    (∃ x, (xs.set number b)[k]? = some x ∧ p x) ↔ ∃ x, xs[k]? = some x ∧ p x := by
  constructor
  · rintro ⟨x, hx, hpx⟩
    rcases (getElem?_set_eq_some h).mp hx with ⟨rfl, rfl⟩ | ⟨-, hx⟩
    · exact ⟨a, h, hp.mp hpx⟩
    · exact ⟨x, hx, hpx⟩
  · rintro ⟨x, hx, hpx⟩
    by_cases hk : k = number
    · subst k
      obtain rfl : a = x := Option.some.inj (h.symm.trans hx)
      exact ⟨b, (getElem?_set_eq_some h).mpr (Or.inl ⟨rfl, rfl⟩), hp.mpr hpx⟩
    · exact ⟨x, (getElem?_set_eq_some h).mpr (Or.inr ⟨hk, hx⟩), hpx⟩

/-- One of which something does not hold may be replaced by another of which it does. -/
theorem exists_set_iff_or (h : xs[number]? = some a) (hp : ¬ p a) (k : Nat) :
    (∃ x, (xs.set number b)[k]? = some x ∧ p x) ↔
      (∃ x, xs[k]? = some x ∧ p x) ∨ (k = number ∧ p b) := by
  constructor
  · rintro ⟨x, hx, hpx⟩
    rcases (getElem?_set_eq_some h).mp hx with ⟨rfl, rfl⟩ | ⟨-, hx⟩
    · exact Or.inr ⟨rfl, hpx⟩
    · exact Or.inl ⟨x, hx, hpx⟩
  · -- The one that is replaced was none of those that were there.
    rintro (⟨x, hx, hpx⟩ | ⟨rfl, hpb⟩)
    · have hk : k ≠ number := by
        rintro rfl
        obtain rfl : a = x := Option.some.inj (h.symm.trans hx)
        exact hp hpx
      exact ⟨x, (getElem?_set_eq_some h).mpr (Or.inr ⟨hk, hx⟩), hpx⟩
    · exact ⟨b, (getElem?_set_eq_some h).mpr (Or.inl ⟨rfl, rfl⟩), hpb⟩

/-- One of which nothing holds may be added. -/
theorem exists_concat_iff (hp : ¬ p a) (k : Nat) :
    (∃ x, (xs ++ [a])[k]? = some x ∧ p x) ↔ ∃ x, xs[k]? = some x ∧ p x := by
  constructor
  · rintro ⟨x, hx, hpx⟩
    rw [List.getElem?_append] at hx
    split at hx
    · exact ⟨x, hx, hpx⟩
    · obtain rfl := List.mem_singleton.mp (List.mem_of_getElem? hx)
      exact absurd hpx hp
  · rintro ⟨x, hx, hpx⟩
    exact ⟨x, by rw [List.getElem?_append_left (List.getElem?_eq_some_iff.mp hx).1, hx], hpx⟩

/-- To replace one by another that looks like it shows nowhere. -/
theorem map_set_eq {f : α → β} (h : xs[number]? = some a) (hf : f b = f a) :
    (xs.set number b).map f = xs.map f := by
  refine List.ext_getElem? fun k => ?_
  rw [List.getElem?_map, List.getElem?_map]
  by_cases hk : k = number
  · subst k
    rw [(getElem?_set_eq_some h).mpr (Or.inl ⟨rfl, rfl⟩), h, Option.map_some, Option.map_some, hf]
  · rw [List.getElem?_set_ne (fun he => hk he.symm)]

/-- Lists that look alike look alike in every way in which their members do. -/
theorem map_eq_of_map_eq {f : α → β} {g : α → γ} {ys : List α} (h : xs.map f = ys.map f)
    (hmem : ∀ x ∈ xs, ∀ y ∈ ys, f x = f y → g x = g y) : xs.map g = ys.map g := by
  induction xs generalizing ys with
  | nil =>
    obtain rfl := List.map_eq_nil_iff.mp h.symm
    rfl
  | cons x xs ih =>
    obtain ⟨y, rest, rfl, hxy, hrest⟩ := List.map_eq_cons_iff.mp h.symm
    have hhead : g x = g y := hmem x List.mem_cons_self y List.mem_cons_self hxy.symm
    have htail : xs.map g = rest.map g := ih hrest.symm fun a ha b hb =>
      hmem a (List.mem_cons_of_mem x ha) b (List.mem_cons_of_mem y hb)
    rw [List.map_cons, List.map_cons, hhead, htail]

/-- A split of a longer list is at its end, or is a split of the shorter one. -/
theorem concat_eq_append_cons_iff {before after : List α} :
    xs ++ [b] = before ++ a :: after ↔
      (after = [] ∧ xs = before ∧ b = a) ∨
        ∃ shorter, after = shorter ++ [b] ∧ xs = before ++ a :: shorter := by
  rcases List.eq_nil_or_concat' after with rfl | ⟨shorter, last, rfl⟩
  · rw [List.append_singleton_inj]
    simp
  · rw [← List.cons_append, ← List.append_assoc, List.append_singleton_inj]
    constructor
    · rintro ⟨rfl, rfl⟩
      exact Or.inr ⟨shorter, rfl, rfl⟩
    · rintro (⟨h, -⟩ | ⟨shorter', h, rfl⟩)
      · simp at h
      · obtain ⟨rfl, rfl⟩ := List.append_singleton_inj.mp h
        exact ⟨rfl, rfl⟩

/-- What occurs once is at one place. -/
theorem place_eq_of_count_eq_one [DecidableEq α] (h : xs.count a = 1) {i j : Nat}
    (hi : xs[i]? = some a) (hj : xs[j]? = some a) : i = j := by
  by_contra hne
  obtain ⟨hi', rfl⟩ := List.getElem?_eq_some_iff.mp hi
  obtain ⟨hj', ha⟩ := List.getElem?_eq_some_iff.mp hj
  have htwice : 2 ≤ xs.count xs[i] := by
    rw [← List.duplicate_iff_two_le_count, List.duplicate_iff_exists_distinct_get]
    rcases Nat.lt_or_gt_of_ne hne with hlt | hlt
    · exact ⟨⟨i, hi'⟩, ⟨j, hj'⟩, hlt, rfl, ha.symm⟩
    · exact ⟨⟨j, hj'⟩, ⟨i, hi'⟩, hlt, ha.symm, rfl⟩
  omega

end Place

end AdminConsole
