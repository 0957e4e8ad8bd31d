import Mathlib.Data.List.Forall2

/-! # Failures, step by step

Where a step fails, or a step of a list of them, what follows it is not done.
-/
namespace AdminConsole

section Except

variable {ε α β : Type} {x : Except ε α} {e : ε}

theorem exists_ok_of_bind {f : α → Except ε β} {b : β} (h : (x >>= f) = .ok b) :
    ∃ a, x = .ok a ∧ f a = .ok b := by
  cases x with
  | error e => cases h
  | ok a => exact ⟨a, rfl, h⟩

theorem error_of_bind {f : α → Except ε β} (h : (x >>= f) = .error e) :
    x = .error e ∨ ∃ a, x = .ok a ∧ f a = .error e := by
  cases x with
  | error e' => exact Or.inl (congrArg Except.error (Except.error.inj h))
  | ok a => exact Or.inr ⟨a, rfl, h⟩

theorem error_of_map {f : α → β} (h : x.map f = .error e) : x = .error e := by
  cases x with
  | error e' => exact congrArg Except.error (Except.error.inj h)
  | ok a => cases h

theorem map_eq_ok_iff {f : α → β} {b : β} : x.map f = .ok b ↔ ∃ a, x = .ok a ∧ f a = b := by
  constructor
  · intro h
    cases x with
    | error e => cases h
    | ok a => exact ⟨a, rfl, Except.ok.inj h⟩
  · rintro ⟨a, rfl, rfl⟩
    rfl

theorem exists_ok_of_map {f : α → β} {b : β} (h : x.map f = .ok b) : ∃ a, x = .ok a ∧ f a = b :=
  map_eq_ok_iff.mp h

theorem toOption_eq_some_iff {a : α} : x.toOption = some a ↔ x = .ok a := by
  cases x with
  | error e => exact iff_of_false (fun h => by cases h) fun h => by cases h
  | ok b => rw [Except.toOption, Option.some.injEq, Except.ok.injEq]

theorem exists_error_iff : (∃ e, x = .error e) ↔ ∀ a, x ≠ .ok a := by
  cases x with
  | error e => exact iff_of_true ⟨e, rfl⟩ fun _ h => by cases h
  | ok a => exact iff_of_false (by rintro ⟨_, h⟩; cases h) fun h => h a rfl

/-- A list whose mapping fails, fails at an element. -/
theorem exists_error_of_mapM {f : α → Except ε β} {l : List α} (h : l.mapM f = .error e) :
    ∃ a ∈ l, f a = .error e := by
  induction l with
  | nil => cases h
  | cons a l ih =>
      rw [List.mapM_cons] at h
      rcases error_of_bind h with ha | ⟨b, -, hrest⟩
      · exact ⟨a, List.mem_cons_self, ha⟩
      · rcases error_of_bind hrest with hl | ⟨bs, -, hdone⟩
        · obtain ⟨c, hc, hfail⟩ := ih hl
          exact ⟨c, List.mem_cons_of_mem a hc, hfail⟩
        · cases hdone

/-- The results of a mapping stand where the elements stand that they are the results of. -/
theorem mapM_eq_ok_iff {f : α → Except ε β} {l : List α} {bs : List β} :
    l.mapM f = .ok bs ↔ List.Forall₂ (fun a b => f a = .ok b) l bs := by
  induction l generalizing bs with
  | nil =>
      rw [List.mapM_nil, List.forall₂_nil_left_iff]
      exact ⟨fun h => (Except.ok.inj h).symm, fun h => congrArg Except.ok h.symm⟩
  | cons a l ih =>
      rw [List.mapM_cons, List.forall₂_cons_left_iff]
      constructor
      · intro h
        obtain ⟨b, hb, hrest⟩ := exists_ok_of_bind h
        obtain ⟨rest, hl, hdone⟩ := exists_ok_of_bind hrest
        exact ⟨b, rest, hb, ih.mp hl, (Except.ok.inj hdone).symm⟩
      · rintro ⟨b, rest, hb, hl, rfl⟩
        rw [hb, ih.mpr hl]
        rfl

/-- A list has results if and only if all its elements have. -/
theorem exists_mapM_ok_iff {f : α → Except ε β} {l : List α} :
    (∃ bs, l.mapM f = .ok bs) ↔ ∀ a ∈ l, ∃ b, f a = .ok b := by
  constructor
  · rintro ⟨bs, h⟩
    have hall := mapM_eq_ok_iff.mp h
    clear h
    induction hall with
    | nil => exact fun a ha => absurd ha List.not_mem_nil
    | cons hb _ ih => exact List.forall_mem_cons.mpr ⟨⟨_, hb⟩, ih⟩
  · intro h
    cases hmap : l.mapM f with
    | ok bs => exact ⟨bs, rfl⟩
    | error e =>
        obtain ⟨a, ha, hfail⟩ := exists_error_of_mapM hmap
        obtain ⟨b, hb⟩ := h a ha
        rw [hb] at hfail
        cases hfail

/-- Every result is the result of an element. -/
theorem exists_mem_of_mapM {f : α → Except ε β} {l : List α} {bs : List β}
    (h : l.mapM f = .ok bs) {b : β} (hb : b ∈ bs) : ∃ a ∈ l, f a = .ok b := by
  have hall := mapM_eq_ok_iff.mp h
  clear h
  induction hall with
  | nil => cases hb
  | cons hfirst _ ih =>
      rcases List.mem_cons.mp hb with rfl | hrest
      · exact ⟨_, List.mem_cons_self, hfirst⟩
      · obtain ⟨a, ha, hfa⟩ := ih hrest
        exact ⟨a, List.mem_cons_of_mem _ ha, hfa⟩

/-- A mapping whose results tell where they come from forgets nothing. -/
theorem map_of_mapM {f : α → Except ε β} {g : β → α} (hg : ∀ a b, f a = .ok b → g b = a)
    {l : List α} {bs : List β} (h : l.mapM f = .ok bs) : bs.map g = l := by
  have hall := mapM_eq_ok_iff.mp h
  clear h
  induction hall with
  | nil => rfl
  | cons hb _ ih => rw [List.map_cons, hg _ _ hb, ih]

end Except

/-- Where each thing is read from one text only, so is a list of things. -/
theorem mapM_eq_some_iff_eq_map {α β : Type} {f : α → Option β} {g : β → α}
    (hf : ∀ a b, f a = some b ↔ a = g b) {l : List α} {bs : List β} :
    l.mapM f = some bs ↔ l = bs.map g := by
  induction l generalizing bs with
  | nil =>
      rw [List.mapM_nil]
      show some [] = some bs ↔ [] = bs.map g
      rw [Option.some.injEq, eq_comm (a := []), eq_comm (a := []), List.map_eq_nil_iff]
  | cons a l ih =>
      rw [List.mapM_cons]
      constructor
      · intro h
        obtain ⟨b, hb, hrest⟩ := Option.bind_eq_some_iff.mp h
        obtain ⟨rest, hl, hdone⟩ := Option.bind_eq_some_iff.mp hrest
        rw [← Option.some.inj hdone, List.map_cons, ← (hf a b).mp hb, ← ih.mp hl]
      · intro h
        cases bs with
        | nil => cases h
        | cons b bs =>
            obtain ⟨ha, hl⟩ := List.cons.inj h
            rw [(hf a b).mpr ha, ih.mpr hl]
            rfl

end AdminConsole
