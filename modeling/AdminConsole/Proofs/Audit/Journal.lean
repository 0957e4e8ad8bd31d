import AdminConsole.Audit.Journal
import Mathlib.Data.List.DropRight

/-! # The journal as a window

What the four operations of the journal do to its entries.  A record that is
entered comes last, and the entries are cut to the newest that the journal may
hold (`entries_append`).  A delivery that ends marks one entry, the newest with
its identifier, or none (`setStatus_marks`); which records the journal holds,
and in which order, it leaves alone (`records_setStatus`).  What is read is the
newest entries backwards, or the entries given up in order.
-/
namespace AdminConsole

namespace Journal

/-- The records in the journal, oldest first. -/
def records (j : Journal) : List AuditRecord := j.entries.map JournalEntry.record

theorem length_records (j : Journal) : j.records.length = j.entries.length := List.length_map _

/-! ## Entering a record -/

/-- Journals with the same records have the same records after a further one. -/
theorem records_append_congr {j k : Journal} (h : j.records = k.records) (r : AuditRecord) :
    (j.append r).records = (k.append r).records := by
  have hlength : j.entries.length = k.entries.length := by
    have hl := congrArg List.length h
    rwa [records, records, List.length_map, List.length_map] at hl
  have hevict : j.evict.entries.map JournalEntry.record =
      k.evict.entries.map JournalEntry.record := by
    unfold evict
    rw [hlength]
    split
    · show (j.entries.drop 1).map _ = (k.entries.drop 1).map _
      rw [List.map_drop, List.map_drop]
      exact congrArg (List.drop 1) h
    · exact h
  simp only [records, append, List.map_append, hevict]

/-- Room is made at the expense of the oldest record. -/
theorem records_evict_suffix (j : Journal) : j.evict.records <:+ j.records := by
  unfold evict
  split
  · exact (List.drop_suffix 1 j.entries).map _
  · exact List.suffix_refl _

/-- A journal that is not overfull keeps the newest entries that it may hold.  The test for a full
journal asks for equality, so an overfull one would never lose anything. -/
theorem entries_append {j : Journal} (h : j.entries.length ≤ capacity) (r : AuditRecord) :
    (j.append r).entries =
      (j.entries ++ [({ record := r, status := .pending } : JournalEntry)]).rtake capacity := by
  have hevict : j.evict.entries = j.entries.rtake (capacity - 1) := by
    unfold evict List.rtake
    split
    · next hfull =>
      rw [hfull]
      rfl
    · next hroom =>
      have hshort : j.entries.length - (capacity - 1) = 0 := by
        unfold capacity at h hroom ⊢
        omega
      rw [hshort, List.drop_zero]
  have hcut := List.rtake_concat_succ j.entries (capacity - 1)
    ({ record := r, status := .pending } : JournalEntry)
  exact (congrArg (· ++ [({ record := r, status := .pending } : JournalEntry)]) hevict).trans
    hcut.symm

/-- A window that moves on keeps to the end of what has passed. -/
theorem rtake_append_rtake {α : Type} (xs ys : List α) (n : Nat) :
    (xs.rtake n ++ ys).rtake n = (xs ++ ys).rtake n := by
  simp only [List.rtake_eq_reverse_take_reverse, List.reverse_append, List.reverse_reverse,
    List.take_append, List.take_take]
  rw [Nat.min_eq_left (Nat.sub_le n _)]

/-- A window keeps a short end as it is. -/
theorem rtake_append_of_le {α : Type} (xs : List α) {ys : List α} {n : Nat} (h : ys.length ≤ n) :
    ∃ oldest, (xs ++ ys).rtake n = oldest ++ ys := by
  have hcut : (xs ++ ys).length - n ≤ xs.length := by
    rw [List.length_append]
    omega
  exact ⟨_, List.drop_append_of_le_length hcut⟩

theorem length_rtake_le {α : Type} (xs : List α) (n : Nat) : (xs.rtake n).length ≤ n := by
  unfold List.rtake
  rw [List.length_drop]
  omega

theorem mem_of_mem_rtake {α : Type} {xs : List α} {n : Nat} {a : α} (h : a ∈ xs.rtake n) : a ∈ xs :=
  List.mem_of_mem_drop h

/-! ## Marking an entry -/

/-- `j'` is `j` with a status put into the newest entry that has an identifier; where no entry has
it, `j'` is `j`. -/
def Marks (id : Uuid) (status : DeliveryStatus) (j j' : Journal) : Prop :=
  ((∀ e ∈ j.entries, e.record.id ≠ id) ∧ j' = j) ∨
  ∃ older e newer, j.entries = older ++ e :: newer ∧ e.record.id = id ∧
    (∀ x ∈ newer, x.record.id ≠ id) ∧ j'.entries = older ++ { e with status := status } :: newer

theorem setFirst_cases (id : Uuid) (status : DeliveryStatus) (entries : List JournalEntry) :
    ((∀ e ∈ entries, e.record.id ≠ id) ∧ setFirst id status entries = entries) ∨
    ∃ newer e older, entries = newer ++ e :: older ∧ e.record.id = id ∧
      (∀ x ∈ newer, x.record.id ≠ id) ∧
      setFirst id status entries = newer ++ { e with status := status } :: older := by
  induction entries with
  | nil =>
    refine Or.inl ⟨?_, rfl⟩
    intro e he
    cases he
  | cons e rest ih =>
    unfold setFirst
    by_cases hid : e.record.id = id
    · rw [if_pos hid]
      refine Or.inr ⟨[], e, rest, rfl, hid, ?_, rfl⟩
      intro x hx
      cases hx
    · rw [if_neg hid]
      rcases ih with ⟨hnone, hsame⟩ | ⟨newer, a, older, hrest, ha, hnewer, hset⟩
      · refine Or.inl ⟨?_, by rw [hsame]⟩
        intro x hx
        rcases List.mem_cons.mp hx with rfl | hx
        · exact hid
        · exact hnone x hx
      · refine Or.inr ⟨e :: newer, a, older, by rw [hrest]; rfl, ha, ?_, by rw [hset]; rfl⟩
        intro x hx
        rcases List.mem_cons.mp hx with rfl | hx
        · exact hid
        · exact hnewer x hx

/-- **A delivery that ends marks the newest entry of its record's identifier, or nothing.** -/
theorem setStatus_marks (j : Journal) (id : Uuid) (status : DeliveryStatus) :
    j.Marks id status (j.setStatus id status) := by
  rcases setFirst_cases id status j.entries.reverse with
    ⟨hnone, hsame⟩ | ⟨newer, e, older, hentries, he, hnewer, hset⟩
  · refine Or.inl ⟨fun e he => hnone e (List.mem_reverse.mpr he), ?_⟩
    unfold setStatus
    rw [hsame, List.reverse_reverse]
  · refine Or.inr ⟨older.reverse, e, newer.reverse, ?_, he, ?_, ?_⟩
    · rw [← List.reverse_reverse j.entries, hentries]
      simp only [List.reverse_append, List.reverse_cons, List.append_assoc, List.singleton_append]
    · exact fun x hx => hnewer x (List.mem_reverse.mp hx)
    · show (setFirst id status j.entries.reverse).reverse = _
      rw [hset]
      simp only [List.reverse_append, List.reverse_cons, List.append_assoc, List.singleton_append]

theorem Marks.records_eq {id : Uuid} {status : DeliveryStatus} {j j' : Journal}
    (h : j.Marks id status j') : j'.records = j.records := by
  rcases h with ⟨-, rfl⟩ | ⟨older, e, newer, hj, -, -, hj'⟩
  · rfl
  · simp only [records, hj, hj', List.map_append, List.map_cons]

theorem records_setStatus (j : Journal) (id : Uuid) (status : DeliveryStatus) :
    (j.setStatus id status).records = j.records :=
  (j.setStatus_marks id status).records_eq

/-- An entry after a mark was there before, unless it is the one that was marked. -/
theorem Marks.mem {id : Uuid} {status : DeliveryStatus} {j j' : Journal} (h : j.Marks id status j')
    {e : JournalEntry} (he : e ∈ j'.entries) :
    e ∈ j.entries ∨ e.record.id = id ∧ e.status = status := by
  rcases h with ⟨-, rfl⟩ | ⟨older, a, newer, hj, ha, -, hj'⟩
  · exact Or.inl he
  · rw [hj'] at he
    rw [hj]
    rcases List.mem_append.mp he with he | he
    · exact Or.inl (List.mem_append_left _ he)
    · rcases List.mem_cons.mp he with rfl | he
      · exact Or.inr ⟨ha, rfl⟩
      · exact Or.inl (List.mem_append_right _ (List.mem_cons_of_mem _ he))

/-- Where an identifier is the record's own, a mark leaves no entry of it with another status. -/
theorem Marks.status_eq {id : Uuid} {status : DeliveryStatus} {j j' : Journal}
    (h : j.Marks id status j') (hcount : (j.records.map AuditRecord.id).count id ≤ 1)
    {e : JournalEntry} (he : e ∈ j'.entries) (hid : e.record.id = id) : e.status = status := by
  rcases h with ⟨hnone, rfl⟩ | ⟨older, a, newer, hj, ha, hnewer, hj'⟩
  · exact absurd hid (hnone e he)
  · rw [hj'] at he
    rcases List.mem_append.mp he with he | he
    · -- Then the identifier would occur twice, here and in the entry that was marked.
      exfalso
      have htwice : 2 ≤ (j.records.map AuditRecord.id).count id := by
        have holder : 0 < ((older.map JournalEntry.record).map AuditRecord.id).count id := by
          rw [List.count_pos_iff, List.map_map]
          exact List.mem_map.mpr ⟨e, he, hid⟩
        rw [records, hj, List.map_append, List.map_append, List.count_append, List.map_cons,
          List.map_cons, ha, List.count_cons_self]
        omega
      omega
    · rcases List.mem_cons.mp he with rfl | he
      · rfl
      · exact absurd hid (hnewer e he)

/-! ## Reading -/

/-- The newest entries are read backwards. -/
theorem recent_eq_reverse_rtake (j : Journal) (limit : Nat) :
    j.recent limit = (j.entries.rtake limit).reverse := by
  rw [recent, List.rtake_eq_reverse_take_reverse, List.reverse_reverse]

end Journal

namespace DeliveryStatus

theorem isDeadLettered_iff {status : DeliveryStatus} :
    status.isDeadLettered = true ↔ ∃ attempts error, status = .deadLettered attempts error := by
  cases status with
  | deadLettered attempts error => exact ⟨fun _ => ⟨attempts, error, rfl⟩, fun _ => rfl⟩
  | _ => simp [isDeadLettered]

end DeliveryStatus

end AdminConsole
