import AdminConsole.Proofs.Audit.Schedule
import AdminConsole.Proofs.Console.Perform

/-! # The journal over whole runs

In every run the journal holds the newest records in the order in which they
were submitted, and no more than it may.  Where all identifiers differ, it is
even a function of the deliveries, each with its record and its stage
(`Depot.Accord.entries_eq`).  So the order in which deliveries took their steps
shows nowhere once all have reported: runs with the same submissions and the
same reports end in the same journal (`Depot.Accord.journal_eq`).
-/
namespace AdminConsole

/-- The entry that shows a delivery at its stage. -/
def Delivery.entry (v : Delivery) : JournalEntry := { record := v.record, status := v.stage.status }

/-- A delivery as it is known from outside: its record, and what it reports. -/
def Delivery.told (v : Delivery) : AuditRecord × Option DeliveryResult := (v.record, v.stage.report?)

/-- The state in which a delivery with the report left its entry. -/
def DeliveryStatus.ofReport : DeliveryResult → DeliveryStatus
  | .error (.task _) => pending
  | result => ofResult result

/-- What is in the journal of a delivery that has reported is in its report. -/
theorem DeliveryStage.status_eq_ofReport {stage : DeliveryStage} {p : RetryPolicy} {id : Uuid}
    {report : DeliveryResult} (hsound : stage.Sound p id) (h : stage.report? = some report) :
    stage.status = .ofReport report := by
  cases stage with
  | trying _ => cases h
  | decided _ => cases h
  | ended result =>
    obtain rfl := Option.some.inj h
    have hallows : p.Allows id result := hsound
    cases hallows <;> rfl
  | died reason =>
    obtain rfl := Option.some.inj h
    rfl

namespace Depot

namespace Accord

variable {d d' : Depot}

/-- Where all identifiers differ, the journal shows the newest deliveries, each at its stage. -/
theorem entries_eq (h : d.Accord) (hnodup : d.ids.Nodup) :
    d.journal.entries = (d.deliveries.map Delivery.entry).rtake Journal.capacity := by
  have hrecords : d.journal.entries.map JournalEntry.record =
      ((d.deliveries.map Delivery.entry).rtake Journal.capacity).map JournalEntry.record := by
    rw [Journal.map_rtake, List.map_map]
    exact h.records
  have hsame : d.journal.entries.map id =
      ((d.deliveries.map Delivery.entry).rtake Journal.capacity).map id := by
    -- An entry shows the delivery whose record it has, since nothing else has the identifier.
    refine map_eq_of_map_eq hrecords fun e he e' he' hr => ?_
    obtain ⟨v, hv, rfl⟩ := List.mem_map.mp (Journal.mem_of_mem_rtake he')
    have hid : v.record.id = e.record.id := congrArg AuditRecord.id hr.symm
    have hown : d.ids.count e.record.id = 1 := List.count_eq_one_of_mem hnodup (h.mem_ids he)
    have hstatus := h.status e he hown v hv hid
    obtain ⟨record, status⟩ := e
    obtain rfl : record = v.record := hr
    obtain rfl : status = v.stage.status := hstatus
    rfl
  rwa [List.map_id, List.map_id] at hsame

/-- In which order deliveries took their steps does not show in the end. -/
theorem journal_eq (h : d.Accord) (h' : d'.Accord) (hnodup : d.ids.Nodup)
    (htold : d.deliveries.map Delivery.told = d'.deliveries.map Delivery.told)
    (hend : ∀ v ∈ d.deliveries, v.stage.report? ≠ none) : d.journal = d'.journal := by
  have hrecords : d.deliveries.map Delivery.record = d'.deliveries.map Delivery.record :=
    map_eq_of_map_eq htold fun v _ v' _ hvv' => congrArg Prod.fst hvv'
  have hnodup' : d'.ids.Nodup := by
    rwa [ids_eq, ← hrecords, ← ids_eq]
  have hentries : d.deliveries.map Delivery.entry = d'.deliveries.map Delivery.entry := by
    refine map_eq_of_map_eq htold fun v hv v' hv' hvv' => ?_
    have hr : v.record = v'.record := congrArg Prod.fst hvv'
    have hreport : v.stage.report? = v'.stage.report? := congrArg Prod.snd hvv'
    obtain ⟨report, hsome⟩ := Option.ne_none_iff_exists'.mp (hend v hv)
    have hstatus := DeliveryStage.status_eq_ofReport (h.sound v hv) hsome
    have hstatus' := DeliveryStage.status_eq_ofReport (h'.sound v' hv') (hreport.symm.trans hsome)
    rw [Delivery.entry, Delivery.entry, hr, hstatus, hstatus']
  exact congrArg Journal.mk (by rw [h.entries_eq hnodup, h'.entries_eq hnodup', hentries])

end Accord

end Depot

/-! ## What is read of a journal -/

namespace Journal

/-- The dead letters are the entries given up, each as often as it is in the journal. -/
theorem count_deadLetters (j : Journal) {e : JournalEntry}
    (h : ∃ attempts error, e.status = .deadLettered attempts error) :
    j.deadLetters.count e = j.entries.count e :=
  List.count_filter (DeliveryStatus.isDeadLettered_iff.mpr h)

theorem status_of_mem_deadLetters {j : Journal} {e : JournalEntry} (h : e ∈ j.deadLetters) :
    ∃ attempts error, e.status = .deadLettered attempts error :=
  DeliveryStatus.isDeadLettered_iff.mp (List.mem_filter.mp h).2

end Journal

/-- Whoever may see the journal sees as many of the newest entries as asked for, but at least one
and not more than the journal may hold. -/
theorem Console.view_audit (c : Console) (overflow : Overflow) {actor : Actor}
    (asked : Option Nat) (h : .viewAuditLog ∈ actor.role.grants) :
    ∃ page, c.view overflow actor (.audit asked) = .ok (.ok (.allowed (.audit page))) ∧
      page.entries = c.outbox.journal.recent (max 1 (min 500 (asked.getD 50))) := by
  have hcan : actor.can (PageRequest.audit asked).permission = true := Actor.can_eq_true.mpr h
  have hgate : Gate.check actor (PageRequest.audit asked).permission = .ok () := by
    rw [Gate.check, if_pos hcan]
  refine ⟨.of asked c.outbox, ?_, ?_⟩
  · rw [view, Gate.page, hgate]
    rfl
  · have hlimit : AuditPage.limit asked = max 1 (min 500 (asked.getD 50)) := by
      unfold AuditPage.limit AuditPage.greatestLimit AuditPage.standardLimit
      omega
    rw [AuditPage.of, hlimit]

/-! ## The law of the journal -/

/-- **The journal is a window on the newest submissions, and the order of deliveries does not show
in it.**

In every run it holds the newest 500 records, or all while there are no more.  An attempt leaves it
alone, and a delivery that ends marks one entry or none.  Two runs in which the same records were
submitted, all with identifiers of their own, and in which the deliveries came to the same reports
have the same journal.  The last four parts say what is read of a journal; the one about an outbox
says that its own order of doing things is no exception. -/
theorem Depot.journal_window (policy : RetryPolicy) (moves : List Depot.Move) :
    let d := (Depot.opened policy).run moves
    (d.journal.entries.length ≤ 500 ∧
      d.journal.records = (Depot.Move.records moves).rtake 500) ∧
    (∀ number ending, (d.step (.attempt number ending)).journal = d.journal) ∧
    (∀ number r result, d.deliveries[number]? = some ⟨r, .decided result⟩ →
      d.journal.Marks r.id (.ofResult result) (d.step (.complete number)).journal) ∧
    (∀ policy' moves',
      let d' := (Depot.opened policy').run moves'
      ((Depot.Move.records moves).map AuditRecord.id).Nodup →
        d.deliveries.map Delivery.told = d'.deliveries.map Delivery.told →
          (∀ v ∈ d.deliveries, v.stage.report? ≠ none) → d.journal = d'.journal) ∧
    (∀ channel uses,
      let o := (Outbox.idle policy channel).useAll uses
      o.journal.entries.length ≤ 500 ∧
        o.journal.records = (Outbox.Use.records uses).rtake 500) ∧
    (∀ (j : Journal) k, j.recent k = (j.entries.rtake k).reverse) ∧
    (∀ j : Journal, j.deadLetters.Sublist j.entries ∧
      (∀ e ∈ j.deadLetters, ∃ attempts error, e.status = .deadLettered attempts error) ∧
      ∀ e, (∃ attempts error, e.status = .deadLettered attempts error) →
        j.deadLetters.count e = j.entries.count e) ∧
    ∀ (c : Console) overflow (actor : Actor) asked, .viewAuditLog ∈ actor.role.grants →
      ∃ page, c.view overflow actor (.audit asked) = .ok (.ok (.allowed (.audit page))) ∧
        page.entries = c.outbox.journal.recent (max 1 (min 500 (asked.getD 50))) := by
  have haccord : ∀ policy moves, ((Depot.opened policy).run moves).Accord :=
    fun policy moves => (Depot.Accord.opened policy).run moves
  have hwindow : ∀ policy moves,
      ((Depot.opened policy).run moves).journal.entries.length ≤ 500 ∧
        ((Depot.opened policy).run moves).journal.records =
          (Depot.Move.records moves).rtake 500 := by
    intro policy moves
    refine ⟨(haccord policy moves).length_entries_le, ?_⟩
    rw [(haccord policy moves).records, Depot.records_run]
    rfl
  refine ⟨hwindow policy moves, fun number ending => ?_, fun number r result h => ?_,
    fun policy' moves' hnodup htold hend => ?_, fun channel uses => ?_,
    fun j k => j.recent_eq_reverse_rtake k,
    fun j => ⟨List.filter_sublist, fun e he => Journal.status_of_mem_deadLetters he,
      fun e he => j.count_deadLetters he⟩,
    fun c overflow actor asked h => c.view_audit overflow asked h⟩
  · simp only [Depot.step]
    split <;> rfl
  · rw [Depot.step_complete h]
    exact Journal.setStatus_marks _ _ _
  · refine (haccord policy moves).journal_eq (haccord policy' moves') ?_ htold hend
    rw [Depot.ids_run]
    exact hnodup
  · obtain ⟨moves, hmoves, htracks⟩ := Outbox.exists_moves policy channel uses
    have hsame := hwindow policy moves
    rwa [htracks.journal, hmoves] at hsame

end AdminConsole
