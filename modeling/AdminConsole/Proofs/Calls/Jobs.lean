import AdminConsole.Proofs.Calls.Floor
import AdminConsole.Proofs.List.Place

/-! # The calls on a floor

What the stage of a call tells of it (`Stage.Sound`), and what a step that
touches neither the data nor the outbox leaves of it (`Shift`).  A call keeps
its number and what was called for (`Floor.call_run`).  One that was denied or
refused, or whose caller went before a task was spawned, is `Void`, and stays
so (`Floor.void_run`).

A task that was spawned can always come to its end, and needs no caller for it
(`Floor.exists_quiet`).
-/
namespace AdminConsole

/-! ## Stages -/

namespace Stage

/-- What is known of a call at the stage. -/
def Sound (call : Call) : Stage → Prop
  | called => True
  | denied d => ¬ call.Entitled ∧ d = call.denial
  | passed | spawned | refused _ | changed _ _ => call.Entitled
  | recorded _ done record =>
    call.Entitled ∧ ∃ occasion, record = call.recordOf occasion done.target

/-- The record of a call names the actor with whom it was made. -/
theorem Sound.record_actor {call : Call} {stage : Stage} {record : AuditRecord}
    (h : stage.Sound call) (hr : stage.record? = some record) : record.actor = call.actor := by
  cases stage with
  | recorded now done record' =>
    obtain ⟨-, occasion, rfl⟩ := h
    obtain rfl := Option.some.inj hr
    rfl
  | _ => cases hr

end Stage

namespace Job

/-- The call has come to nothing: it was denied or refused, or its caller went before a task was
spawned. -/
def Void (j : Job) : Prop :=
  match j.stage, j.caller with
  | .denied _, _ | .refused _, _ | .called, .gone | .passed, .gone => True
  | _, _ => False

theorem Void.change?_eq_none {j : Job} (h : j.Void) : j.stage.change? = none := by
  obtain ⟨call, stage, caller⟩ := j
  cases stage with
  | changed _ _ => exact absurd h id
  | recorded _ _ _ => exact absurd h id
  | _ => rfl

theorem Void.record?_eq_none {j : Job} (h : j.Void) : j.stage.record? = none := by
  obtain ⟨call, stage, caller⟩ := j
  cases stage with
  | recorded _ _ _ => exact absurd h id
  | _ => rfl

end Job

namespace Shift

variable {j j' : Job}

theorem call_eq (h : Shift j j') : j'.call = j.call := by cases h <;> rfl

theorem change?_eq (h : Shift j j') : j'.stage.change? = j.stage.change? := by cases h <;> rfl

theorem record?_eq (h : Shift j j') : j'.stage.record? = j.stage.record? := by cases h <;> rfl

theorem sound (h : Shift j j') (hs : j.stage.Sound j.call) : j'.stage.Sound j'.call := by
  cases h with
  | pass hp => exact hp
  | deny hp => exact ⟨hp, rfl⟩
  | spawn => exact hs
  | refuse r => exact hs
  | answer _ => exact hs
  | leave => exact hs

/-- What has come to nothing stays so. -/
theorem void (h : Shift j j') (hv : j.Void) : j'.Void := by
  cases h with
  | pass _ => exact absurd hv id
  | deny _ => exact trivial
  | spawn => exact absurd hv id
  | refuse _ => exact trivial
  -- The caller is answered or goes; of what has come to nothing, only the caller changes.
  | @answer _ stage _ _ =>
    cases stage with
    | denied _ => exact trivial
    | refused _ => exact trivial
    | _ => exact absurd hv id
  | @leave _ stage =>
    cases stage with
    | called => exact trivial
    | passed => exact trivial
    | denied _ => exact trivial
    | refused _ => exact trivial
    | _ => exact absurd hv id

end Shift

/-! ## The calls and their numbers -/

namespace Moved

variable {f f' : Floor} {m : Move}

theorem map_call (h : Moved f m f') :
    f'.jobs.map Job.call = f.jobs.map Job.call ++ m.call?.toList := by
  cases h with
  | asked call => exact List.map_append
  | rest => exact (List.append_nil _).symm
  | shifted hj hs => exact (map_set_eq hj hs.call_eq).trans (List.append_nil _).symm
  | mutated hj _ =>
    refine (map_set_eq hj ?_).trans (List.append_nil _).symm
    rfl
  | submitted _ hj =>
    refine (map_set_eq hj ?_).trans (List.append_nil _).symm
    rfl
  | delivered hm _ =>
    rw [hm]
    exact (List.append_nil _).symm

/-- A call that has come to nothing is not moved any more. -/
theorem void {number : Nat} {j : Job} (h : Moved f m f') (hj : f.jobs[number]? = some j)
    (hv : j.Void) : ∃ j', f'.jobs[number]? = some j' ∧ j'.Void := by
  cases h with
  | asked call =>
    exact ⟨j, by rw [Floor.ask, List.getElem?_append_left (List.getElem?_eq_some_iff.mp hj).1, hj], hv⟩
  | rest => exact ⟨j, hj, hv⟩
  | @shifted k _ i i' hi hs =>
    by_cases hk : number = k
    · subst k
      obtain rfl := Option.some.inj (hj.symm.trans hi)
      exact ⟨i', (getElem?_set_eq_some hi).mpr (Or.inl ⟨rfl, rfl⟩), hs.void hv⟩
    · exact ⟨j, (getElem?_set_eq_some hi).mpr (Or.inr ⟨hk, hj⟩), hv⟩
  | @mutated k _ _ _ _ _ hi _ =>
    have hk : number ≠ k := by
      rintro rfl
      obtain rfl := Option.some.inj (hj.symm.trans hi)
      exact hv
    exact ⟨j, (getElem?_set_eq_some hi).mpr (Or.inr ⟨hk, hj⟩), hv⟩
  | @submitted k _ _ _ _ _ hi =>
    have hk : number ≠ k := by
      rintro rfl
      obtain rfl := Option.some.inj (hj.symm.trans hi)
      exact hv
    exact ⟨j, (getElem?_set_eq_some hi).mpr (Or.inr ⟨hk, hj⟩), hv⟩
  | delivered _ _ => exact ⟨j, hj, hv⟩

end Moved

namespace Floor

theorem map_call_run (f : Floor) (moves : List Move) :
    (f.run moves).jobs.map Job.call = f.jobs.map Job.call ++ Move.calls moves := by
  induction moves generalizing f with
  | nil => exact (List.append_nil _).symm
  | cons m moves ih =>
    rw [run_cons, ih, (f.moved m).map_call, List.append_assoc]
    congr 1
    unfold Move.calls
    cases hm : m.call? with
    | none => rw [List.filterMap_cons_none hm]; rfl
    | some call => rw [List.filterMap_cons_some hm]; rfl

/-- Under its number a call stays what it is. -/
theorem call_run {f : Floor} {number : Nat} {j : Job} (hj : f.jobs[number]? = some j)
    (moves : List Move) :
    ∃ j', (f.run moves).jobs[number]? = some j' ∧ j'.call = j.call := by
  have hcall : ((f.run moves).jobs.map Job.call)[number]? = some j.call := by
    have hlt : number < (f.jobs.map Job.call).length := by
      rw [List.length_map]
      exact (List.getElem?_eq_some_iff.mp hj).1
    rw [map_call_run, List.getElem?_append_left hlt, List.getElem?_map, hj, Option.map_some]
  rw [List.getElem?_map, Option.map_eq_some_iff] at hcall
  exact hcall

theorem void_run {f : Floor} {number : Nat} {j : Job} (hj : f.jobs[number]? = some j)
    (hv : j.Void) (moves : List Move) :
    ∃ j', (f.run moves).jobs[number]? = some j' ∧ j'.Void := by
  induction moves generalizing f j with
  | nil => exact ⟨j, hj, hv⟩
  | cons m moves ih =>
    obtain ⟨i, hi, hvi⟩ := (f.moved m).void hj hv
    exact ih hi hvi

end Floor

/-! ## Tasks come to their end -/

theorem Moved.others {f f' : Floor} {number k : Nat} {t : Turn} (h : Moved f (.turn number t) f')
    (hk : k ≠ number) : f'.jobs[k]? = f.jobs[k]? := by
  cases h with
  | rest => rfl
  | shifted _ _ => exact List.getElem?_set_ne fun he => hk he.symm
  | mutated _ _ => exact List.getElem?_set_ne fun he => hk he.symm
  | submitted _ _ => exact List.getElem?_set_ne fun he => hk he.symm
  | delivered _ _ => rfl

namespace Floor

theorem jobs_put {f : Floor} {number : Nat} {j : Job} (hj : f.jobs[number]? = some j) (j' : Job) :
    (f.put number j').jobs[number]? = some j' :=
  (getElem?_set_eq_some hj).mpr (Or.inl ⟨rfl, rfl⟩)

/-- The turns that a task may have left. -/
def taskTurns (number : Nat) (occasion : Occasion) : List Move :=
  [.turn number (.mutate occasion.now), .turn number (.submit occasion)]

theorem submit_done {f : Floor} {number : Nat} {call : Call} {caller : Caller} {now : Instant}
    {done : Performed} (hj : f.jobs[number]? = some ⟨call, .changed now done, caller⟩)
    (occasion : Occasion) :
    ∃ j, (f.step (.turn number (.submit occasion))).jobs[number]? = some j ∧ ¬ j.stage.Busy := by
  rw [step_turn hj]
  exact ⟨_, (getElem?_set_eq_some hj).mpr (Or.inl ⟨rfl, rfl⟩), id⟩

/-- A task that has its turns has none left then, whether or not its caller still waits. -/
theorem taskTurns_done {f : Floor} {number : Nat} {j : Job} (hj : f.jobs[number]? = some j)
    (occasion : Occasion) :
    ∃ j', (f.run (taskTurns number occasion)).jobs[number]? = some j' ∧ ¬ j'.stage.Busy := by
  obtain ⟨call, stage, caller⟩ := j
  rw [taskTurns, run_cons, run_cons, run_nil, step_turn hj]
  cases stage with
  | spawned =>
    have htake : f.take number ⟨call, .spawned, caller⟩ (.mutate occasion.now) =
        f.mutate number ⟨call, .spawned, caller⟩ occasion.now := rfl
    rw [htake]
    rcases hrun : (call.action.run call.actor.id occasion.now).exec f.console.data with
      ⟨r | done, data⟩
    · rw [mutate_of_error number hrun, step_turn (jobs_put hj _)]
      exact ⟨_, jobs_put hj _, id⟩
    · rw [mutate_of_ok number hrun]
      have hchanged : (f.jobs.set number ⟨call, .changed occasion.now done, caller⟩)[number]? =
          some ⟨call, .changed occasion.now done, caller⟩ := jobs_put hj _
      exact submit_done hchanged occasion
  | changed now done => exact submit_done hj occasion
  | _ =>
    -- Neither turn finds the task at its stage.
    show ∃ j', (f.step (.turn number (.submit occasion))).jobs[number]? = some j' ∧ _
    rw [step_turn hj]
    exact ⟨_, hj, id⟩

/-- The tasks of the first calls can come to their end, and no others are called meanwhile. -/
theorem exists_done_below (f : Floor) (occasion : Occasion) (n : Nat) :
    ∃ moves, Move.calls moves = [] ∧
      ∀ k < n, ∀ j, (f.run moves).jobs[k]? = some j → ¬ j.stage.Busy := by
  induction n with
  | zero => exact ⟨[], rfl, fun k hk => absurd hk (Nat.not_lt_zero k)⟩
  | succ n ih =>
    obtain ⟨moves, hcalls, hdone⟩ := ih
    refine ⟨moves ++ taskTurns n occasion, ?_, fun k hk j hj => ?_⟩
    · show Move.calls (moves ++ _) = []
      rw [Move.calls, List.filterMap_append, show moves.filterMap Move.call? = [] from hcalls]
      rfl
    · rw [run_append] at hj
      by_cases hkn : k = n
      · subst k
        cases hn : (f.run moves).jobs[n]? with
        | none =>
          rw [taskTurns, run_cons, run_cons, run_nil, step_turn_none hn, step_turn_none hn, hn] at hj
          cases hj
        | some i =>
          obtain ⟨j', hj', hidle⟩ := taskTurns_done hn occasion
          rw [hj'] at hj
          exact Option.some.inj hj ▸ hidle
      · have hsame : ((f.run moves).run (taskTurns n occasion)).jobs[k]? =
            (f.run moves).jobs[k]? :=
          ((moved _ _).others hkn).trans ((moved _ _).others hkn)
        exact hdone k (by omega) j (hsame ▸ hj)

/-- **From everywhere the floor can become quiet**, without a call more and without any caller. -/
theorem exists_quiet (f : Floor) : ∃ moves, Move.calls moves = [] ∧ (f.run moves).Quiet := by
  obtain ⟨moves, hcalls, hdone⟩ :=
    f.exists_done_below { now := Instant.ofDays 0, recordId := .ofNat 0 } f.jobs.length
  refine ⟨moves, hcalls, fun j hj => ?_⟩
  obtain ⟨k, hk, hget⟩ := List.getElem_of_mem hj
  have hlength : (f.run moves).jobs.length = f.jobs.length := by
    have hcall := congrArg List.length (f.map_call_run moves)
    rwa [hcalls, List.append_nil, List.length_map, List.length_map] at hcall
  exact hdone k (hlength ▸ hk) j (List.getElem?_eq_some_iff.mpr ⟨hk, hget⟩)

end Floor

end AdminConsole
