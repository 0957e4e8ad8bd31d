import AdminConsole.Proofs.Audit.Schedule

/-! # Two accounts of one delivery

Who waits for a delivery gets its report, and who reads the journal sees its
entry.  Where a record's identifier is its own, the two say the same
(`JournalEntry.Tells`): delivered, on which attempt; or given up, after how many
and why; or, if the delivery died, nothing at all.

A delivery that has reported does nothing further, so an entry that tells the
end of a delivery stays as it is (`Depot.Accord.status_final`).  And no delivery
is ever given up before its first attempt (`Depot.Accord.exhausted`), so that
none is entered as given up after no attempts (`Depot.begun_run`).
-/
namespace AdminConsole

/-- The entry says of its delivery what the report says. -/
structure JournalEntry.Tells (e : JournalEntry) (report : DeliveryResult) : Prop where
  delivered : ∀ attempts, e.status = .delivered attempts ↔
    report = .ok { recordId := e.record.id, attempts := attempts }
  deadLettered : ∀ attempts error, e.status = .deadLettered attempts error ↔
    1 ≤ attempts ∧ ∃ lastError, report = .error (.exhausted attempts lastError) ∧
      error = (DeliveryError.exhausted attempts lastError).message
  pending : e.status = .pending ↔ ∃ text, report = .error (.task text)

/-- An entry that shows the stage of a delivery says what the delivery reports. -/
theorem DeliveryStage.tells {stage : DeliveryStage} {p : RetryPolicy} {e : JournalEntry}
    {report : DeliveryResult} (hsound : stage.Sound p e.record.id)
    (hreport : stage.report? = some report) (hstatus : e.status = stage.status) :
    e.Tells report := by
  cases stage with
  | trying attempt => cases hreport
  | decided result => cases hreport
  | ended result =>
    obtain rfl := Option.some.inj hreport
    have hallows : p.Allows e.record.id result := hsound
    cases hallows with
    | @delivered n hfirst _ =>
      have hs : e.status = .delivered n := hstatus
      constructor <;> simp [hs]
    | @givenUp n lastError hfirst _ =>
      have hs : e.status = .deadLettered n (DeliveryError.exhausted n lastError).message := hstatus
      refine ⟨by simp [hs], fun m error => ?_, by simp [hs]⟩
      rw [hs]
      constructor
      · rintro ⟨rfl, rfl⟩
        exact ⟨hfirst, lastError, rfl, rfl⟩
      · rintro ⟨-, lastError', ⟨rfl, rfl⟩, rfl⟩
        rfl
  | died reason =>
    obtain rfl := Option.some.inj hreport
    have hs : e.status = .pending := hstatus
    constructor <;> simp [hs]

theorem DeliveryStage.report?_ne_none {stage : DeliveryStage} (h : stage.status ≠ .pending) :
    stage.report? ≠ none := by
  cases stage with
  | ended result => exact Option.some_ne_none result
  | _ => exact absurd rfl h

namespace Depot

namespace Accord

variable {d : Depot}

/-- Where a record's identifier is its own, its entry says what its delivery reports. -/
theorem tells (h : d.Accord) {v : Delivery} (hv : v ∈ d.deliveries)
    (hown : d.ids.count v.record.id = 1) {e : JournalEntry} (he : e ∈ d.journal.entries)
    (hid : e.record.id = v.record.id) {report : DeliveryResult}
    (hreport : v.stage.report? = some report) : e.Tells report := by
  have hsound : v.stage.Sound d.policy e.record.id := hid ▸ h.sound v hv
  have hstatus : e.status = v.stage.status := h.status e he (hid ▸ hown) v hv hid.symm
  exact DeliveryStage.tells hsound hreport hstatus

/-- A delivery that failed was given up, and not before its first attempt. -/
theorem exhausted (h : d.Accord) {v : Delivery} (hv : v ∈ d.deliveries) {error : DeliveryError}
    (hstage : v.stage = .decided (.error error)) :
    ∃ attempts lastError, 1 ≤ attempts ∧ error = .exhausted attempts lastError := by
  have hallows : d.policy.Allows v.record.id (.error error) := by
    have hsound := h.sound v hv
    rwa [hstage] at hsound
  cases hallows with
  | givenUp hfirst _ => exact ⟨_, _, hfirst, rfl⟩

/-- What an entry tells of the end of a delivery, it tells for good. -/
theorem status_final (h : d.Accord) (moves : List Move) {e e' : JournalEntry}
    (he : e ∈ d.journal.entries) (hend : e.status ≠ .pending)
    (he' : e' ∈ (d.run moves).journal.entries) (hid : e'.record.id = e.record.id)
    (hown : (d.run moves).ids.count e.record.id = 1) : e'.status = e.status := by
  obtain ⟨v, hv, hve⟩ := List.mem_map.mp (h.mem_ids he)
  have hown' : d.ids.count e.record.id = 1 := by
    have hpos : 0 < d.ids.count e.record.id := List.count_pos_iff.mpr (h.mem_ids he)
    rw [ids_run, List.count_append] at hown
    omega
  have hstatus : e.status = v.stage.status := h.status e he hown' v hv hve
  have hreport : v.stage.report? ≠ none :=
    DeliveryStage.report?_ne_none (hstatus ▸ hend)
  -- The delivery has reported, so it is in the same place and at the same stage ever after.
  obtain ⟨number, hnumber⟩ := List.getElem?_of_mem hv
  have hv' : v ∈ (d.run moves).deliveries :=
    List.mem_of_getElem? (reported_run hnumber hreport moves)
  rw [hstatus]
  exact (h.run moves).status e' he' (hid ▸ hown) v hv' (hve.trans hid.symm)

end Accord

/-- No entry tells of a delivery that was given up after no attempts. -/
def Begun (d : Depot) : Prop := ∀ e ∈ d.journal.entries, ∀ error, e.status ≠ .deadLettered 0 error

theorem begun_step {d d' : Depot} {m : Move} (h : d.Accord) (hd : d.Begun) (hm : Moved d m d') :
    d'.Begun := by
  cases hm with
  | rest _ => exact hd
  | tried ending _ => exact hd
  | submitted r =>
    intro e he error hs
    have he' : e ∈ (d.journal.append r).entries := he
    rw [Journal.entries_append h.length_entries_le r] at he'
    rcases List.mem_append.mp (Journal.mem_of_mem_rtake he') with he' | he'
    · exact hd e he' error hs
    · obtain rfl := List.mem_singleton.mp he'
      cases hs
  | @completed number r result hv =>
    intro e he error hs
    rcases (d.journal.setStatus_marks r.id (.ofResult result)).mem he with he | ⟨-, hmark⟩
    · exact hd e he error hs
    · have hallows : d.policy.Allows r.id result := h.sound _ (List.mem_of_getElem? hv)
      rw [hs] at hmark
      cases hallows with
      | delivered _ _ => cases hmark
      | givenUp hfirst _ =>
        cases hmark
        exact absurd hfirst (by omega)

theorem begun_run {d : Depot} (h : d.Accord) (hd : d.Begun) (moves : List Move) :
    (d.run moves).Begun := by
  induction moves generalizing d with
  | nil => exact hd
  | cons m moves ih => exact ih (h.step (d.moved m)) (begun_step h hd (d.moved m))

end Depot

namespace Outbox

/-- Who waits gets what the outbox reports. -/
theorem report?_of_wait {o : Outbox} {task : Nat} {report : DeliveryResult}
    (h : (o.wait task).1 = some report) : (o.wait task).2.report? task = some report := by
  unfold wait at h ⊢
  by_cases hfree : task < o.nextTask ∧ task ∉ o.claimed
  · rw [if_pos hfree] at h ⊢
    exact h
  · rw [if_neg hfree] at h
    cases h

/-- What a wait gave, the entry in the outbox says too. -/
theorem wait_tells (policy : RetryPolicy) (channel : Channel) (uses : List Use) {task : Nat}
    {r : AuditRecord} {report : DeliveryResult} {e : JournalEntry}
    (hr : (Use.records uses)[task]? = some r)
    (hown : ((Use.records uses).map AuditRecord.id).count r.id = 1)
    (hreport : (((idle policy channel).useAll uses).wait task).1 = some report)
    (he : e ∈ (((idle policy channel).useAll uses).wait task).2.journal.entries)
    (hid : e.record.id = r.id) : e.Tells report := by
  obtain ⟨moves, hmoves, htracks⟩ := exists_moves policy channel uses
  obtain ⟨waiting, hwaiting, htracks⟩ := reaches_wait _ task _ htracks
  rw [← Depot.run_append] at htracks
  have hrecords : Depot.Move.records (moves ++ waiting) = Use.records uses := by
    rw [Depot.Move.records_append, hmoves, hwaiting, List.append_nil]
  generalize moves ++ waiting = moves at htracks hrecords
  have hsame := ((Depot.opened policy).records_run moves).trans (congrArg ([] ++ ·) hrecords)
  -- The delivery of the number has the record of the number.
  have hv := (htracks.reports task).symm.trans (report?_of_wait hreport)
  obtain ⟨v, hv, hvreport⟩ := Option.bind_eq_some_iff.mp hv
  have hvr : v.record = r := by
    have hplace := List.getElem?_map (f := Delivery.record)
      (l := ((Depot.opened policy).run moves).deliveries) (i := task)
    rw [hsame, hv, List.nil_append, hr] at hplace
    exact (Option.some.inj hplace).symm
  have haccord := (Depot.Accord.opened policy).run moves
  refine haccord.tells (List.mem_of_getElem? hv) ?_ (htracks.journal ▸ he) (hvr ▸ hid) hvreport
  rw [Depot.ids_run, hrecords, hvr]
  exact hown

/-- What an entry in the outbox tells of the end of a delivery, it tells for good. -/
theorem status_final (policy : RetryPolicy) (channel : Channel) (uses more : List Use)
    {e e' : JournalEntry} (he : e ∈ ((idle policy channel).useAll uses).journal.entries)
    (hend : e.status ≠ .pending)
    (he' : e' ∈ (((idle policy channel).useAll uses).useAll more).journal.entries)
    (hid : e'.record.id = e.record.id)
    (hown : ((Use.records (uses ++ more)).map AuditRecord.id).count e.record.id = 1) :
    e'.status = e.status := by
  obtain ⟨moves, hmoves, htracks⟩ := exists_moves policy channel uses
  obtain ⟨further, hfurther, htracks'⟩ := htracks.useAll more
  have haccord := (Depot.Accord.opened policy).run moves
  refine haccord.status_final further (htracks.journal ▸ he) hend (htracks'.journal ▸ he') hid ?_
  rw [Depot.ids_run, Depot.ids_run, hmoves, hfurther, List.append_assoc, ← List.map_append,
    Use.records, Use.records, ← List.filterMap_append]
  exact hown

end Outbox

/-- **The report of a delivery and its entry in the journal say the same, and say it for good.**

This holds in every run of a depot, whatever its attempts end with and in whatever order deliveries
and submissions take their steps, for every record that has its identifier for itself.  There and
where a delivery runs on its own, one that fails was given up, after one attempt at least.  The
last two parts are about the outbox, its waiting callers and its own order of doing things. -/
theorem Depot.journal_agrees_with_reports (policy : RetryPolicy) :
    (∀ moves,
      let d := (Depot.opened policy).run moves
      (∀ v ∈ d.deliveries, d.ids.count v.record.id = 1 →
        ∀ e ∈ d.journal.entries, e.record.id = v.record.id →
          ∀ report, v.stage.report? = some report → e.Tells report) ∧
      (∀ more, ∀ e ∈ d.journal.entries, e.status ≠ .pending →
        ∀ e' ∈ (d.run more).journal.entries, e'.record.id = e.record.id →
          (d.run more).ids.count e.record.id = 1 → e'.status = e.status) ∧
      (∀ v ∈ d.deliveries, ∀ error, v.stage = .decided (.error error) →
        ∃ attempts lastError, 1 ≤ attempts ∧ error = .exhausted attempts lastError) ∧
      ∀ e ∈ d.journal.entries, ∀ error, e.status ≠ .deadLettered 0 error) ∧
    (∀ id (outcome : Nat → Id (Except DeliveryError Unit)) error,
      (deliver policy id outcome).run.result = .error error →
        ∃ attempts lastError, 1 ≤ attempts ∧ error = .exhausted attempts lastError) ∧
    ∀ channel uses,
      let o := (Outbox.idle policy channel).useAll uses
      let records := Outbox.Use.records uses
      (∀ task r, records[task]? = some r → (records.map AuditRecord.id).count r.id = 1 →
        ∀ report, (o.wait task).1 = some report →
          ∀ e ∈ (o.wait task).2.journal.entries, e.record.id = r.id → e.Tells report) ∧
      ∀ more, ∀ e ∈ o.journal.entries, e.status ≠ .pending →
        ∀ e' ∈ (o.useAll more).journal.entries, e'.record.id = e.record.id →
          ((Outbox.Use.records (uses ++ more)).map AuditRecord.id).count e.record.id = 1 →
            e'.status = e.status := by
  refine ⟨fun moves => ?_, fun id outcome error herror => ?_, fun channel uses => ⟨?_, ?_⟩⟩
  · have haccord := (Depot.Accord.opened policy).run moves
    refine ⟨fun v hv hown e he hid report hreport => haccord.tells hv hown he hid hreport,
      fun more e he hend e' he' hid hown => haccord.status_final more he hend he' hid hown,
      fun v hv error hstage => haccord.exhausted hv hstage, ?_⟩
    refine Depot.begun_run (Depot.Accord.opened policy) ?_ moves
    intro e he
    cases he
  · have hallows := allows_deliverFrom policy id outcome 0 (Nat.le_refl 1) policy.one_le_attemptLimit
    rw [deliver] at herror
    rw [herror] at hallows
    cases hallows with
    | givenUp hfirst _ => exact ⟨_, _, hfirst, rfl⟩
  · intro task r hr hown report hreport e he hid
    exact Outbox.wait_tells policy channel uses hr hown hreport he hid
  · intro more e he hend e' he' hid hown
    exact Outbox.status_final policy channel uses more he hend he' hid hown

end AdminConsole
