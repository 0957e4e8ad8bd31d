import AdminConsole.Proofs.Audit.Depot
import AdminConsole.Proofs.List.Place

/-! # The journal and the deliveries agree

A delivery tells its end twice: once to whoever waits for it, and once to the
journal.  The journal has the records of the newest deliveries, in order, and
where a record's identifier is its own, the entry shows the state of its
delivery and of no other (`Accord`).  Every move keeps this, in whatever order
the deliveries take their steps.

Identifiers must be their own for this, since the journal finds an entry by the
identifier alone: the end of a delivery is entered with the newest record that
has its record's identifier.
-/
namespace AdminConsole

namespace Journal

theorem map_rtake {α β : Type} (f : α → β) (xs : List α) (n : Nat) :
    (xs.rtake n).map f = (xs.map f).rtake n := by
  unfold List.rtake
  rw [List.map_drop, List.length_map]

theorem records_append {j : Journal} (h : j.entries.length ≤ capacity) (r : AuditRecord) :
    (j.append r).records = (j.records ++ [r]).rtake capacity := by
  rw [records, entries_append h, map_rtake, List.map_append]
  rfl

/-- After any number of records the journal holds the newest of all. -/
theorem records_foldl_append {j : Journal} (h : j.entries.length ≤ capacity)
    (rs : List AuditRecord) :
    (rs.foldl append j).records = (j.records ++ rs).rtake capacity := by
  induction rs generalizing j with
  | nil =>
      have hall : j.records.length - capacity = 0 := by
        rw [length_records]
        omega
      rw [List.append_nil, List.rtake, hall]
      rfl
  | cons r rs ih =>
      have hroom : (j.append r).entries.length ≤ capacity := by
        rw [entries_append h]
        exact length_rtake_le _ _
      rw [List.foldl_cons, ih hroom, records_append h, rtake_append_rtake, List.append_assoc,
        List.singleton_append]

end Journal

namespace Depot

/-- The identifiers of all records that were ever submitted, in order. -/
def ids (d : Depot) : List Uuid := d.deliveries.map fun v => v.record.id

/-- The journal has the records of the newest deliveries, and tells the state of each that has an
identifier of its own. -/
structure Accord (d : Depot) : Prop where
  sound : ∀ v ∈ d.deliveries, v.stage.Sound d.policy v.record.id
  records : d.journal.records = (d.deliveries.map Delivery.record).rtake Journal.capacity
  status : ∀ e ∈ d.journal.entries, d.ids.count e.record.id = 1 →
    ∀ v ∈ d.deliveries, v.record.id = e.record.id → e.status = v.stage.status

theorem ids_submit (d : Depot) (r : AuditRecord) : (d.submit r).ids = d.ids ++ [r.id] :=
  List.map_append

theorem ids_set {d : Depot} {number : Nat} {v w : Delivery} (h : d.deliveries[number]? = some v)
    (hr : w.record = v.record) :
    ((d.deliveries.set number w).map fun v => v.record.id) = d.ids :=
  map_set_eq h (congrArg AuditRecord.id hr)

theorem ids_eq (d : Depot) : d.ids = (d.deliveries.map Delivery.record).map AuditRecord.id := by
  rw [List.map_map]
  rfl

theorem ids_run (d : Depot) (moves : List Move) :
    (d.run moves).ids = d.ids ++ (Move.records moves).map AuditRecord.id := by
  rw [ids_eq, ids_eq, records_run, List.map_append]

namespace Accord

variable {d : Depot} {number attempt : Nat} {r : AuditRecord} {result : DeliveryResult}

theorem opened (policy : RetryPolicy) : (Depot.opened policy).Accord where
  sound := by
    intro v hv
    cases hv
  records := (List.rtake_nil _).symm
  status := by
    intro e he
    cases he

theorem length_entries_le (h : d.Accord) : d.journal.entries.length ≤ Journal.capacity := by
  rw [← Journal.length_records, h.records]
  exact Journal.length_rtake_le _ _

/-- What is in the journal was submitted. -/
theorem mem_ids (h : d.Accord) {e : JournalEntry} (he : e ∈ d.journal.entries) :
    e.record.id ∈ d.ids := by
  have hr : e.record ∈ d.journal.records := List.mem_map.mpr ⟨e, he, rfl⟩
  rw [h.records] at hr
  obtain ⟨v, hv, hve⟩ := List.mem_map.mp (Journal.mem_of_mem_rtake hr)
  exact List.mem_map.mpr ⟨v, hv, congrArg AuditRecord.id hve⟩

/-- No identifier is more frequent in the journal than among the deliveries. -/
theorem count_records_le (h : d.Accord) (id : Uuid) :
    (d.journal.records.map AuditRecord.id).count id ≤ d.ids.count id := by
  rw [h.records, ids_eq]
  exact ((List.drop_sublist _ _).map _).count_le id

theorem submit (h : d.Accord) (r : AuditRecord) : (d.submit r).Accord where
  sound := by
    intro v hv
    rcases List.mem_append.mp hv with hv | hv
    · exact h.sound v hv
    · obtain rfl := List.mem_singleton.mp hv
      exact ⟨Nat.le_refl 1, d.policy.one_le_attemptLimit⟩
  records := by
    show (d.journal.append r).records = ((d.deliveries ++ [_]).map Delivery.record).rtake _
    rw [Journal.records_append h.length_entries_le, h.records, List.map_append]
    exact Journal.rtake_append_rtake _ [r] _
  status := by
    intro e he hown v hv hid
    have he' : e ∈ d.journal.entries ++ [({ record := r, status := .pending } : JournalEntry)] := by
      have hentries := Journal.entries_append h.length_entries_le r
      exact Journal.mem_of_mem_rtake (hentries ▸ he)
    rw [ids_submit, List.count_append] at hown
    rcases List.mem_append.mp hv with hv | hv
    · -- An old delivery: then the identifier is not that of the new record.
      have hold : 0 < d.ids.count e.record.id :=
        List.count_pos_iff.mpr (List.mem_map.mpr ⟨v, hv, hid⟩)
      have hnew : r.id ≠ e.record.id := by
        intro hr
        rw [hr, List.count_singleton_self] at hown
        omega
      rcases List.mem_append.mp he' with he' | he'
      · exact h.status e he' (by omega) v hv hid
      · obtain rfl := List.mem_singleton.mp he'
        exact absurd rfl hnew
    · obtain rfl := List.mem_singleton.mp hv
      rcases List.mem_append.mp he' with he' | he'
      · have hold : 0 < d.ids.count e.record.id := List.count_pos_iff.mpr (h.mem_ids he')
        rw [← hid, List.count_singleton_self] at hown
        rw [← hid] at hold
        omega
      · obtain rfl := List.mem_singleton.mp he'
        rfl

/-- A delivery that goes on, and tells the journal nothing new. -/
theorem put {v v' : Delivery} (h : d.Accord) (hv : d.deliveries[number]? = some v)
    (hr : v'.record = v.record) (hs : v'.stage.Sound d.policy v'.record.id)
    (hstatus : v'.stage.status = v.stage.status) : (d.put number v').Accord where
  sound := by
    intro w hw
    rcases List.mem_or_eq_of_mem_set hw with hw | rfl
    · exact h.sound w hw
    · exact hs
  records := by
    show d.journal.records = ((d.deliveries.set number v').map Delivery.record).rtake _
    rw [map_set_eq hv hr]
    exact h.records
  status := by
    intro e he hown w hw hid
    rw [ids, Depot.put, ids_set hv hr] at hown
    rcases List.mem_or_eq_of_mem_set hw with hw | rfl
    · exact h.status e he hown w hw hid
    · rw [hr] at hid
      rw [hstatus]
      exact h.status e he hown v (List.mem_of_getElem? hv) hid

theorem complete (h : d.Accord) (hv : d.deliveries[number]? = some ⟨r, .decided result⟩) :
    (d.complete number r result).Accord where
  sound := by
    intro w hw
    rcases List.mem_or_eq_of_mem_set hw with hw | rfl
    · exact h.sound w hw
    · exact (h.sound _ (List.mem_of_getElem? hv) : d.policy.Allows r.id result)
  records := by
    show (d.journal.setStatus r.id _).records = ((d.deliveries.set number _).map _).rtake _
    rw [Journal.records_setStatus, map_set_eq hv (b := ⟨r, .ended result⟩) rfl]
    exact h.records
  status := by
    intro e he hown w hw hid
    rw [ids, Depot.complete, ids_set hv (w := ⟨r, .ended result⟩) rfl] at hown
    have hmarks := d.journal.setStatus_marks r.id (.ofResult result)
    obtain ⟨k, hk, hwk⟩ := List.getElem_of_mem hw
    rcases (getElem?_set_eq_some hv).mp (List.getElem?_eq_some_iff.mpr ⟨hk, hwk⟩) with
      ⟨-, rfl⟩ | ⟨hne, hwk⟩
    · refine hmarks.status_eq ?_ he hid.symm
      exact (h.count_records_le r.id).trans (hid ▸ hown).le
    · -- Another delivery: it has another identifier, so its entry is not the one that is marked.
      have hother : e.record.id ≠ r.id := by
        intro hr
        have hplace : d.ids[k]? = some e.record.id := by
          rw [ids, List.getElem?_map, hwk, Option.map_some, hid]
        have hplace' : d.ids[number]? = some e.record.id := by
          rw [ids, List.getElem?_map, hv, Option.map_some, hr]
        exact hne (place_eq_of_count_eq_one hown hplace hplace')
      rcases hmarks.mem he with he | ⟨hr, -⟩
      · exact h.status e he hown w (List.mem_of_getElem? hwk) hid
      · exact absurd hr hother

/-- **Every move keeps the journal and the deliveries in accord.** -/
theorem step {d' : Depot} {m : Move} (h : d.Accord) (hm : Moved d m d') : d'.Accord := by
  cases hm with
  | submitted r => exact h.submit r
  | rest _ => exact h
  | tried ending hv =>
    refine h.put hv rfl ?_ (DeliveryStage.status_after _ _ _ _)
    exact DeliveryStage.sound_after (h.sound _ (List.mem_of_getElem? hv)) ending
  | completed hv => exact h.complete hv

theorem run (h : d.Accord) (moves : List Move) : (d.run moves).Accord := by
  induction moves generalizing d with
  | nil => exact h
  | cons m moves ih => exact ih (h.step (d.moved m))

end Accord

end Depot

end AdminConsole
