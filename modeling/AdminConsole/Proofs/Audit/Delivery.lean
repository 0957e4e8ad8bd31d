import AdminConsole.Audit.Delivery

/-! # One delivery from its first attempt to its last

What follows an attempt depends on how it ended, on its number and on the
policy, and on nothing else.  `Delivers` is a delivery as such a chain of
attempts, whatever the attempts leave behind.  A delivery whose attempts each
add something to a log is such a chain, and the log then holds what its
attempts added, in order (`deliverFrom_logged`).

In every such chain all attempts but the last failed in a way that may pass
(`Delivers.retryable`), and the result tells the number of the last one
(`Delivers.attempts?_result`).
-/
namespace AdminConsole

/-- The number of attempts that a result tells. -/
def DeliveryResult.attempts? : DeliveryResult → Option Nat
  | .ok receipt => some receipt.attempts
  | .error (.exhausted attempts _) => some attempts
  | .error _ => none

/-- The number of attempts that were made. -/
def DeliveryRun.attempts (run : DeliveryRun) : Nat := run.attemptedAt.length

/-- A run with an attempt more at its beginning. -/
def DeliveryRun.precededBy (run : DeliveryRun) (clock : Nat) : DeliveryRun :=
  { run with attemptedAt := clock :: run.attemptedAt }

/-! ## One attempt -/

namespace RetryPolicy

variable {p : RetryPolicy} {id : Uuid} {attempt : Nat} {outcome : Except DeliveryError Unit}

theorem attempts?_of_finished {result : DeliveryResult}
    (h : p.verdict id attempt outcome = .finished result) :
    DeliveryResult.attempts? result = some attempt := by
  cases outcome with
  | ok _ =>
    obtain rfl := Verdict.finished.inj h
    rfl
  | error e =>
    simp only [verdict] at h
    split at h
    · cases h
    · obtain rfl := Verdict.finished.inj h
      rfl

/-- Another attempt is made only after a failure that may pass. -/
theorem retryable_of_retryAfter {delay : Nat} {allowed : attempt < p.attemptLimit}
    (h : p.verdict id attempt outcome = .retryAfter delay allowed) :
    ∃ e, outcome = .error e ∧ e.isRetryable = true := by
  cases outcome with
  | ok _ => cases h
  | error e =>
    simp only [verdict] at h
    split at h
    · next hretry => exact ⟨e, rfl, hretry.1⟩
    · cases h

end RetryPolicy

/-! ## Whole deliveries -/

/-- A delivery from the attempt of a number on, which is made at the second `clock`, has the run. -/
inductive Delivers (p : RetryPolicy) (id : Uuid) (outcome : Nat → Except DeliveryError Unit) :
    Nat → Nat → DeliveryRun → Prop
  | last {attempt clock : Nat} {result : DeliveryResult} :
      p.verdict id attempt (outcome attempt) = .finished result →
      Delivers p id outcome attempt clock { result := result, attemptedAt := [clock] }
  | more {attempt clock delay : Nat} {allowed : attempt < p.attemptLimit} {run : DeliveryRun} :
      p.verdict id attempt (outcome attempt) = .retryAfter delay allowed →
      Delivers p id outcome (attempt + 1) (clock + delay) run →
      Delivers p id outcome attempt clock (run.precededBy clock)

namespace Delivers

variable {p : RetryPolicy} {id : Uuid} {outcome : Nat → Except DeliveryError Unit}
  {attempt clock : Nat} {run : DeliveryRun}

theorem attempts_pos (h : Delivers p id outcome attempt clock run) : 0 < run.attempts := by
  cases h with
  | last _ => exact Nat.one_pos
  | more _ _ => exact Nat.succ_pos _

/-- The endings of the attempts settle the run. -/
theorem unique {run' : DeliveryRun} (h : Delivers p id outcome attempt clock run)
    (h' : Delivers p id outcome attempt clock run') : run' = run := by
  induction h generalizing run' with
  | last hfinished =>
    cases h' with
    | last hfinished' =>
      obtain rfl := Verdict.finished.inj (hfinished.symm.trans hfinished')
      rfl
    | more hretry' _ => cases hfinished.symm.trans hretry'
  | more hretry _ ih =>
    cases h' with
    | last hfinished' => cases hretry.symm.trans hfinished'
    | more hretry' hrest' =>
      obtain rfl := Verdict.retryAfter.inj (hretry.symm.trans hretry')
      rw [ih hrest']

/-- The result tells the number of the last attempt. -/
theorem attempts?_result (h : Delivers p id outcome attempt clock run) :
    DeliveryResult.attempts? run.result = some (attempt + (run.attempts - 1)) := by
  induction h with
  | last hfinished => exact RetryPolicy.attempts?_of_finished hfinished
  | @more attempt clock delay _ run _ hrest ih =>
    have hpos : 0 < run.attempts := hrest.attempts_pos
    have hcount : (run.precededBy clock).attempts = run.attempts + 1 := rfl
    rw [hcount]
    refine ih.trans (congrArg some ?_)
    omega

/-- Every attempt but the last failed in a way that may pass. -/
theorem retryable (h : Delivers p id outcome attempt clock run) {k : Nat}
    (hk : k + 1 < run.attempts) : ∃ e, outcome (attempt + k) = .error e ∧ e.isRetryable = true := by
  induction h generalizing k with
  | last _ =>
    have hone : k + 1 < 1 := hk
    omega
  | more hretry _ ih =>
    cases k with
    | zero => exact RetryPolicy.retryable_of_retryAfter hretry
    | succ k =>
      obtain ⟨e, he, hpass⟩ := ih (Nat.lt_of_succ_lt_succ hk)
      refine ⟨e, ?_, hpass⟩
      rw [← he]
      congr 1
      omega

end Delivers

/-- A program with a state goes on with the value and the state that its first part leaves. -/
theorem run_bind_state {σ α β : Type} (x : StateM σ α) (f : α → StateM σ β) (s : σ) :
    (x >>= f).run s = (f (x.run s).1).run (x.run s).2 := rfl

/-- A delivery whose attempts each add an entry to a log: it runs its chain of attempts, and the log
then holds the entries of these attempts.  What an attempt does may depend on the log, which tells
its number. -/
theorem deliverFrom_logged {ω : Type} (p : RetryPolicy) (id : Uuid)
    {outcome : Nat → Except DeliveryError Unit} {entry : Nat → ω}
    {attemptOf : Nat → StateM (List ω) (Except DeliveryError Unit)}
    (hattempt : ∀ log, (attemptOf (log.length + 1)).run log =
      (outcome (log.length + 1), log ++ [entry (log.length + 1)]))
    (clock : Nat) (log : List ω) :
    ∃ run, Delivers p id outcome (log.length + 1) clock run ∧
      (deliverFrom p id attemptOf (log.length + 1) clock).run log =
        (run, log ++ (List.range' (log.length + 1) run.attempts).map entry) := by
  rw [deliverFrom, run_bind_state, hattempt]
  cases hverdict : p.verdict id (log.length + 1) (outcome (log.length + 1)) with
  | finished result => exact ⟨_, Delivers.last hverdict, rfl⟩
  | retryAfter delay allowed =>
    have hlength : (log ++ [entry (log.length + 1)]).length = log.length + 1 := List.length_append
    obtain ⟨run, hdelivers, hrest⟩ := deliverFrom_logged p id hattempt (clock + delay)
      (log ++ [entry (log.length + 1)])
    rw [hlength] at hdelivers hrest
    refine ⟨run.precededBy clock, Delivers.more hverdict hdelivers, ?_⟩
    have hentries : (List.range' (log.length + 1) (run.precededBy clock).attempts).map entry =
        entry (log.length + 1) :: (List.range' (log.length + 1 + 1) run.attempts).map entry := rfl
    rw [run_bind_state, hrest, hentries, ← List.append_cons]
    rfl
termination_by p.attemptLimit - (log.length + 1)

end AdminConsole
