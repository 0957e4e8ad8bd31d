import AdminConsole.Proofs.Calls.Jobs
import Mathlib.Data.List.Nodup

/-! # Every change has its record

The change of the data and the submission of its record are two steps of a
task, between which other tasks may change and submit what they like.  The
books of the floor are in order all the same: `Accounted` says that the two
logs contain exactly what the stages of the calls say was done, each thing
once, and that the data and the outbox are what the logs make of them.  Every
move keeps it (`Accounted.step`).

So a record in the trail always has a change behind it, and as soon as no
spawned task has a step left, every change has its record
(`Floor.trail_accounts_for_changes`).  A call that has come to nothing leaves
neither a change nor a record.
-/
namespace AdminConsole

/-! ## Jobs and their logs -/

/-- Changes, oldest first, lead from one state of the data to another: each is what its call's
action did. -/
inductive Made (d : Data) : List Change → Data → Prop
  | none : Made d [] d
  | more {e e' : Data} {changes : List Change} {c : Change} : Made d changes e →
      (c.call.action.run c.call.actor.id c.now).exec e = (.ok c.done, e') →
      Made d (changes ++ [c]) e'

/-- A change names what its call's record is to name. -/
theorem Made.target {d e : Data} {changes : List Change} (h : Made d changes e) :
    ∀ c ∈ changes, c.done.target = c.call.action.target := by
  induction h with
  | none =>
    intro c hc
    cases hc
  | more _ hrun ih =>
    intro c hc
    rcases List.mem_append.mp hc with hc | hc
    · exact ih c hc
    · obtain rfl := List.mem_singleton.mp hc
      exact (Action.run_ok hrun).1

namespace Job

/-- The call has made the change. -/
def HasMade (c : Change) (j : Job) : Prop :=
  j.call = c.call ∧ j.stage.change? = some (c.now, c.done)

/-- The call has submitted the record. -/
def HasSubmitted (s : Submission) (j : Job) : Prop := j.stage.record? = some s.record

end Job

/-! ## The books are in order -/

/-- The books of a floor that began with the console `start`. -/
structure Accounted (start : Console) (f : Floor) : Prop where
  /-- The data is what the logged changes made of it. -/
  made : Made start.data f.changes f.console.data
  /-- The journal is what the records of the trail made of it. -/
  records : f.console.outbox.journal.records =
    ((f.trail.map Submission.record).foldl Journal.append start.outbox.journal).records
  numbered : f.console.outbox.nextTask = start.outbox.nextTask + f.trail.length
  sound : ∀ j ∈ f.jobs, j.stage.Sound j.call
  mem_changes : ∀ c, c ∈ f.changes ↔ ∃ j, f.jobs[c.number]? = some j ∧ j.HasMade c
  mem_trail : ∀ s, s ∈ f.trail ↔ ∃ j, f.jobs[s.number]? = some j ∧ j.HasSubmitted s
  changes_nodup : (f.changes.map Change.number).Nodup
  trail_nodup : (f.trail.map Submission.number).Nodup

namespace Accounted

variable {start : Console} {f f' : Floor} {number : Nat} {j j' : Job}

theorem opened (start : Console) : Accounted start (Floor.opened start) where
  made := Made.none
  records := rfl
  numbered := rfl
  sound := by
    intro j hj
    cases hj
  mem_changes := by
    intro c
    constructor
    · intro hc
      cases hc
    · rintro ⟨j, hj, -⟩
      cases hj
  mem_trail := by
    intro s
    constructor
    · intro hs
      cases hs
    · rintro ⟨j, hj, -⟩
      cases hj
  changes_nodup := List.nodup_nil
  trail_nodup := List.nodup_nil

theorem ask (h : Accounted start f) (call : Call) : Accounted start (f.ask call) where
  made := h.made
  records := h.records
  numbered := h.numbered
  sound := by
    intro j hj
    rcases List.mem_append.mp hj with hj | hj
    · exact h.sound j hj
    · obtain rfl := List.mem_singleton.mp hj
      exact trivial
  mem_changes c := by
    have hnot : ¬ (⟨call, .called, .waiting⟩ : Job).HasMade c := by
      rintro ⟨-, hc⟩
      cases hc
    exact (h.mem_changes c).trans (exists_concat_iff hnot c.number).symm
  mem_trail s := by
    have hnot : ¬ (⟨call, .called, .waiting⟩ : Job).HasSubmitted s := by
      intro hs
      cases hs
    exact (h.mem_trail s).trans (exists_concat_iff hnot s.number).symm
  changes_nodup := h.changes_nodup
  trail_nodup := h.trail_nodup

/-- What the jobs' stages say of a job that is replaced holds of the others anyway. -/
theorem sound_set (h : Accounted start f) (hj' : j'.stage.Sound j'.call) :
    ∀ i ∈ f.jobs.set number j', i.stage.Sound i.call := by
  intro i hi
  rcases List.mem_or_eq_of_mem_set hi with hi | rfl
  · exact h.sound i hi
  · exact hj'

theorem shift (h : Accounted start f) (hj : f.jobs[number]? = some j) (hs : Shift j j') :
    Accounted start (f.put number j') where
  made := h.made
  records := h.records
  numbered := h.numbered
  sound := h.sound_set (hs.sound (h.sound j (List.mem_of_getElem? hj)))
  mem_changes c := by
    have hp : j'.HasMade c ↔ j.HasMade c := by
      unfold Job.HasMade
      rw [hs.call_eq, hs.change?_eq]
    exact (h.mem_changes c).trans (exists_set_iff hj hp c.number).symm
  mem_trail s := by
    have hp : j'.HasSubmitted s ↔ j.HasSubmitted s := by
      unfold Job.HasSubmitted
      rw [hs.record?_eq]
    exact (h.mem_trail s).trans (exists_set_iff hj hp s.number).symm
  changes_nodup := h.changes_nodup
  trail_nodup := h.trail_nodup

theorem mutate {call : Call} {caller : Caller} {now : Instant} {done : Performed} {data : Data}
    (h : Accounted start f) (hj : f.jobs[number]? = some ⟨call, .spawned, caller⟩)
    (hrun : (call.action.run call.actor.id now).exec f.console.data = (.ok done, data)) :
    Accounted start {
      console := { f.console with data := data }
      jobs := f.jobs.set number ⟨call, .changed now done, caller⟩
      changes := f.changes ++ [⟨number, call, now, done⟩]
      trail := f.trail } where
  made := Made.more h.made hrun
  records := h.records
  numbered := h.numbered
  sound := h.sound_set (h.sound _ (List.mem_of_getElem? hj) : call.Entitled)
  mem_changes c := by
    have hnot : ¬ (⟨call, .spawned, caller⟩ : Job).HasMade c := by
      rintro ⟨-, hc⟩
      cases hc
    have hnew : c ∈ [(⟨number, call, now, done⟩ : Change)] ↔
        c.number = number ∧ (⟨call, .changed now done, caller⟩ : Job).HasMade c := by
      rw [List.mem_singleton]
      constructor
      · rintro rfl
        exact ⟨rfl, rfl, rfl⟩
      · obtain ⟨k, call', now', done'⟩ := c
        rintro ⟨rfl, rfl, hc⟩
        obtain ⟨rfl, rfl⟩ := Prod.mk.inj (Option.some.inj hc)
        rfl
    rw [List.mem_append, h.mem_changes c, hnew]
    exact (exists_set_iff_or hj hnot c.number).symm
  mem_trail s := by
    have hp : (⟨call, .changed now done, caller⟩ : Job).HasSubmitted s ↔
        (⟨call, .spawned, caller⟩ : Job).HasSubmitted s := Iff.rfl
    exact (h.mem_trail s).trans (exists_set_iff hj hp s.number).symm
  changes_nodup := by
    rw [List.map_append]
    refine List.nodup_append.mpr ⟨h.changes_nodup, List.nodup_singleton _, ?_⟩
    intro k hk k' hk' he
    obtain ⟨c, hc, rfl⟩ := List.mem_map.mp hk
    obtain rfl := List.mem_singleton.mp hk'
    -- A task that is only spawned has made no change yet.
    obtain ⟨i, hi, -, hmade⟩ := (h.mem_changes c).mp hc
    rw [he] at hi
    obtain rfl := Option.some.inj (hj.symm.trans hi)
    cases hmade
  trail_nodup := h.trail_nodup

theorem submit {call : Call} {caller : Caller} {now : Instant} {done : Performed}
    (h : Accounted start f) (hj : f.jobs[number]? = some ⟨call, .changed now done, caller⟩)
    (occasion : Occasion) :
    Accounted start (f.submit number ⟨call, .changed now done, caller⟩ now done occasion) where
  made := h.made
  records := by
    show (f.console.outbox.journal.append _).records =
      (((f.trail ++ [_]).map Submission.record).foldl Journal.append start.outbox.journal).records
    rw [List.map_append, List.foldl_append]
    exact Journal.records_append_congr h.records _
  numbered := by
    show f.console.outbox.nextTask + 1 = start.outbox.nextTask + (f.trail ++ [_]).length
    rw [List.length_append, List.length_singleton, h.numbered]
    omega
  sound := h.sound_set
    ⟨(h.sound _ (List.mem_of_getElem? hj) : call.Entitled), occasion, rfl⟩
  mem_changes c := by
    have hp : (⟨call, .recorded now done (call.recordOf occasion done.target), caller⟩ :
        Job).HasMade c ↔ (⟨call, .changed now done, caller⟩ : Job).HasMade c := Iff.rfl
    exact (h.mem_changes c).trans (exists_set_iff hj hp c.number).symm
  mem_trail s := by
    have hnot : ¬ (⟨call, .changed now done, caller⟩ : Job).HasSubmitted s := by
      intro hs
      cases hs
    have hnew : s ∈ [(⟨number, call.recordOf occasion done.target⟩ : Submission)] ↔
        s.number = number ∧ (⟨call, .recorded now done (call.recordOf occasion done.target),
          caller⟩ : Job).HasSubmitted s := by
      rw [List.mem_singleton]
      constructor
      · rintro rfl
        exact ⟨rfl, rfl⟩
      · obtain ⟨k, record⟩ := s
        rintro ⟨rfl, hs⟩
        cases hs
        rfl
    show s ∈ f.trail ++ [_] ↔ _
    rw [List.mem_append, h.mem_trail s, hnew]
    exact (exists_set_iff_or hj hnot s.number).symm
  changes_nodup := h.changes_nodup
  trail_nodup := by
    show ((f.trail ++ [_]).map Submission.number).Nodup
    rw [List.map_append]
    refine List.nodup_append.mpr ⟨h.trail_nodup, List.nodup_singleton _, ?_⟩
    intro k hk k' hk' he
    obtain ⟨s, hs, rfl⟩ := List.mem_map.mp hk
    obtain rfl := List.mem_singleton.mp hk'
    -- A task that is about to submit has submitted nothing yet.
    obtain ⟨i, hi, hsub⟩ := (h.mem_trail s).mp hs
    rw [he] at hi
    obtain rfl := Option.some.inj (hj.symm.trans hi)
    cases hsub

/-- **Every move keeps the books in order.** -/
theorem step {m : Move} (h : Accounted start f) (hm : Moved f m f') : Accounted start f' := by
  cases hm with
  | asked call => exact h.ask call
  | rest => exact h
  | shifted hj hs => exact h.shift hj hs
  | mutated hj hrun => exact h.mutate hj hrun
  | submitted occasion hj => exact h.submit hj occasion
  | delivered _ hk =>
    exact { h with
      records := hk.records.trans h.records
      numbered := hk.nextTask.trans h.numbered }

theorem run (h : Accounted start f) (moves : List Move) : Accounted start (f.run moves) := by
  induction moves generalizing f with
  | nil => exact h
  | cons m moves ih => exact ih (h.step (f.moved m))

end Accounted

/-! ## What the books say -/

/-- The record is that of the change: it names the call's action, the actor and the origin of the
call, and the target of the action. -/
structure Submission.Of (s : Submission) (c : Change) : Prop where
  number : s.number = c.number
  action : s.record.action = c.call.action.kind.name
  actor : s.record.actor = c.call.actor
  target : s.record.target = some c.call.action.target
  ip : s.record.ip = c.call.origin.ip
  device : s.record.device = c.call.origin.device

namespace Accounted

variable {start : Console} {f : Floor}

/-- The stage at which a record was submitted has the record of the change. -/
theorem of_recorded (h : Accounted start f) {number : Nat} {call : Call} {caller : Caller}
    {now : Instant} {done : Performed} {record : AuditRecord}
    (hj : f.jobs[number]? = some ⟨call, .recorded now done record, caller⟩) :
    (⟨number, call, now, done⟩ : Change) ∈ f.changes ∧ (⟨number, record⟩ : Submission) ∈ f.trail ∧
      (⟨number, record⟩ : Submission).Of ⟨number, call, now, done⟩ := by
  have hc : (⟨number, call, now, done⟩ : Change) ∈ f.changes :=
    (h.mem_changes _).mpr ⟨_, hj, rfl, rfl⟩
  have hsound : call.Entitled ∧ ∃ occasion, record = call.recordOf occasion done.target :=
    h.sound _ (List.mem_of_getElem? hj)
  obtain ⟨-, occasion, rfl⟩ := hsound
  refine ⟨hc, (h.mem_trail _).mpr ⟨_, hj, rfl⟩, rfl, rfl, rfl, ?_, rfl, rfl⟩
  exact congrArg some (h.made.target _ hc)

/-- A change was made by a call that was entitled to it. -/
theorem entitled (h : Accounted start f) {c : Change} (hc : c ∈ f.changes) : c.call.Entitled := by
  obtain ⟨⟨call, stage, caller⟩, hj, rfl, hmade⟩ := (h.mem_changes c).mp hc
  have hsound : stage.Sound c.call := h.sound _ (List.mem_of_getElem? hj)
  cases stage with
  | changed _ _ => exact hsound
  | recorded _ _ _ => exact hsound.1
  | _ => cases hmade

/-- A record in the trail has a change behind it. -/
theorem exists_change (h : Accounted start f) {s : Submission} (hs : s ∈ f.trail) :
    ∃ c ∈ f.changes, s.Of c := by
  obtain ⟨⟨call, stage, caller⟩, hj, hsub⟩ := (h.mem_trail s).mp hs
  obtain ⟨number, record⟩ := s
  cases stage with
  | recorded now done record' =>
    obtain rfl := Option.some.inj hsub
    obtain ⟨hc, -, hof⟩ := h.of_recorded hj
    exact ⟨_, hc, hof⟩
  | _ => cases hsub

/-- When no task has a step left, a change has its record. -/
theorem exists_submission (h : Accounted start f) (hq : f.Quiet) {c : Change}
    (hc : c ∈ f.changes) : ∃ s ∈ f.trail, s.Of c := by
  obtain ⟨⟨call, stage, caller⟩, hj, rfl, hmade⟩ := (h.mem_changes c).mp hc
  obtain ⟨number, call, now, done⟩ := c
  cases stage with
  | changed _ _ => exact absurd trivial (hq _ (List.mem_of_getElem? hj))
  | recorded _ _ record =>
    obtain ⟨rfl, rfl⟩ := Prod.mk.inj (Option.some.inj hmade)
    obtain ⟨-, hs, hof⟩ := h.of_recorded hj
    exact ⟨_, hs, hof⟩
  | _ => cases hmade

/-- A call that has come to nothing is in no log. -/
theorem absent_of_void (h : Accounted start f) {number : Nat} {j : Job}
    (hj : f.jobs[number]? = some j) (hv : j.Void) :
    (∀ c ∈ f.changes, c.number ≠ number) ∧ ∀ s ∈ f.trail, s.number ≠ number := by
  constructor
  · rintro c hc rfl
    obtain ⟨i, hi, -, hmade⟩ := (h.mem_changes c).mp hc
    obtain rfl := Option.some.inj (hj.symm.trans hi)
    rw [hv.change?_eq_none] at hmade
    cases hmade
  · rintro s hs rfl
    obtain ⟨i, hi, hsub⟩ := (h.mem_trail s).mp hs
    obtain rfl := Option.some.inj (hj.symm.trans hi)
    rw [Job.HasSubmitted, hv.record?_eq_none] at hsub
    cases hsub

end Accounted

namespace Floor

/-- **Every record has its change, and in the end every change its record.**  However the steps of
the calls interleave and whichever callers are dropped: a record in the trail is that of exactly one
change, and no call has two records or two changes; once no spawned task has a step left, a change
has exactly one record; and what has come to nothing never contributes to either.  The logs are not
hearsay: the data and the outbox are what they make of those of the beginning, and a change's call
is the one that was asked for under its number. -/
theorem trail_accounts_for_changes (start : Console) (moves : List Move) :
    let f := (opened start).run moves
    (∀ s ∈ f.trail, ∃! c, c ∈ f.changes ∧ s.Of c) ∧
    (f.trail.map Submission.number).Nodup ∧ (f.changes.map Change.number).Nodup ∧
    (f.Quiet → ∀ c ∈ f.changes, ∃! s, s ∈ f.trail ∧ s.Of c) ∧
    (∀ before after, moves = before ++ after → ∀ number j,
      ((opened start).run before).jobs[number]? = some j → j.Void →
        (∀ c ∈ f.changes, c.number ≠ number) ∧ ∀ s ∈ f.trail, s.number ≠ number) ∧
    (∀ c ∈ f.changes, (Move.calls moves)[c.number]? = some c.call) ∧
    Made start.data f.changes f.console.data ∧
    f.console.outbox.nextTask = start.outbox.nextTask + f.trail.length ∧
    f.console.outbox.journal.records =
      ((f.trail.map Submission.record).foldl Journal.append start.outbox.journal).records := by
  intro f
  have h : Accounted start f := (Accounted.opened start).run moves
  refine ⟨fun s hs => ?_, h.trail_nodup, h.changes_nodup, fun hq c hc => ?_, ?_, fun c hc => ?_,
    h.made, h.numbered, h.records⟩
  · obtain ⟨c, hc, hof⟩ := h.exists_change hs
    refine ⟨c, ⟨hc, hof⟩, ?_⟩
    rintro c' ⟨hc', hof'⟩
    exact List.inj_on_of_nodup_map h.changes_nodup hc' hc (hof'.number.symm.trans hof.number)
  · obtain ⟨s, hs, hof⟩ := h.exists_submission hq hc
    refine ⟨s, ⟨hs, hof⟩, ?_⟩
    rintro s' ⟨hs', hof'⟩
    exact List.inj_on_of_nodup_map h.trail_nodup hs' hs (hof'.number.trans hof.number.symm)
  · intro before after he number j hj hv
    -- Once a call has come to nothing the rest of the run cannot move it.
    obtain ⟨j', hj', hv'⟩ := void_run hj hv after
    rw [← run_append, ← he] at hj'
    exact h.absent_of_void hj' hv'
  · obtain ⟨j, hj, hcall, -⟩ := (h.mem_changes c).mp hc
    have hcalls : f.jobs.map Job.call = Move.calls moves := map_call_run (opened start) moves
    rw [← hcalls, List.getElem?_map, hj, Option.map_some, hcall]

end Floor

end AdminConsole
