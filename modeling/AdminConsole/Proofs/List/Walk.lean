import Mathlib.Data.List.Chain

/-! # Walks and their words

A walk takes one step after the other, and each step has a letter.  What a
letter asks of the place where its step begins shows in the word of the walk:
some letters alternate, and some occur once.
-/
namespace AdminConsole

variable {σ α κ : Type}

/-- A walk from one place to another, with its word. -/
inductive Walk (R : σ → α → σ → Prop) : σ → List α → σ → Prop
  | rest (s : σ) : Walk R s [] s
  | step {s t u : σ} {a : α} {word : List α} : R s a t → Walk R t word u → Walk R s (a :: word) u

namespace Walk

variable {R : σ → α → σ → Prop} {s t u : σ} {a : α} {word : List α}

/-- A walk may go on for a step. -/
theorem concat (h : Walk R s word t) (ha : R t a u) : Walk R s (word ++ [a]) u := by
  induction h with
  | rest s => exact step ha (rest u)
  | step hb _ ih => exact step hb (ih ha)

/-- No walk leads away from where no step begins. -/
theorem eq_nil (h : Walk R s word t) (hend : ∀ a u, ¬ R s a u) : word = [] := by
  cases h with
  | rest _ => rfl
  | step hb _ => exact absurd hb (hend _ _)

/-- After a letter whose step leads nowhere else there is no other. -/
theorem eq_nil_of_after {before after : List α} (h : Walk R s (before ++ a :: after) t)
    (hend : ∀ s u, R s a u → ∀ b v, ¬ R u b v) : after = [] := by
  induction before generalizing s with
  | nil =>
    cases h with
    | step ha hrest => exact hrest.eq_nil (hend _ _ ha)
  | cons b before ih =>
    cases h with
    | step _ hrest => exact ih hrest

/-- What is only possible while it is not done, and is done for good then, happens at most once. -/
theorem countP_le (h : Walk R s word t) (once : α → Bool) (done : σ → Bool)
    (hstep : ∀ {s a t}, R s a t →
      (once a = true → done s = false ∧ done t = true) ∧ (done s = true → done t = true)) :
    word.countP once ≤ if done s = true then 0 else 1 := by
  induction h with
  | rest s => exact Nat.zero_le _
  | @step s t u a rest hb _ ih =>
    obtain ⟨honce, hkeep⟩ := hstep hb
    rw [List.countP_cons]
    by_cases ha : once a = true
    · -- From here on it is done, so the rest of the walk has no more of it.
      obtain ⟨hs, hdone⟩ := honce ha
      rw [if_pos hdone] at ih
      rw [if_pos ha, if_neg (by rw [hs]; exact Bool.false_ne_true)]
      omega
    · rw [if_neg ha]
      by_cases hs : done s = true
      · rw [if_pos (hkeep hs)] at ih
        rw [if_pos hs]
        exact ih
      · rw [if_neg hs]
        refine Nat.le_trans ih ?_
        split <;> omega

/-- If the place tells which of some letters came last, and none is possible that came last, no two
of them that follow one another are the same. -/
theorem isChain (h : Walk R s word t) (tag? : α → Option κ) (last : σ → κ)
    (hstep : ∀ {s a t}, R s a t → (∀ k, tag? a = some k → last s ≠ k ∧ last t = k) ∧
      (tag? a = none → last t = last s ∨ ∀ b u, ¬ R t b u)) :
    (last s :: word.filterMap tag?).IsChain (· ≠ ·) := by
  induction h with
  | rest s => exact List.isChain_singleton _
  | @step s t u a rest hb hrest ih =>
    obtain ⟨htake, hpass⟩ := hstep hb
    cases htag : tag? a with
    | some k =>
      obtain ⟨hne, hlast⟩ := htake k htag
      rw [List.filterMap_cons_some htag]
      exact List.isChain_cons_cons.mpr ⟨hne, hlast ▸ ih⟩
    | none =>
      rw [List.filterMap_cons_none htag]
      -- A letter without a tag hides which came last only where the walk is over.
      rcases hpass htag with hlast | hend
      · exact hlast ▸ ih
      · obtain rfl := hrest.eq_nil hend
        exact List.isChain_singleton _

end Walk

end AdminConsole
