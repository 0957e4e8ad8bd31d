import AdminConsole.Audit.Failure
import AdminConsole.Uuid

/-!
# Delivering one record

A delivery repeats its attempt until one succeeds, one fails for good, or the attempts are used up.
Between two attempts it pauses as its policy says, but never for longer than `longestPause`.
`RetryPolicy.verdict` is the decision after one attempt; `deliver` runs a whole delivery against a
source of outcomes and keeps the times of its attempts.
-/

namespace AdminConsole

/-- How often to try, and how long to pause after each failed attempt, in seconds. -/
structure RetryPolicy where
  maxAttempts : Nat
  delays : List Nat
  deriving DecidableEq, Repr

namespace RetryPolicy

/-- The number of attempts that may be made; there is always one. -/
def attemptLimit (p : RetryPolicy) : Nat := max 1 p.maxAttempts

/-- The pause after the failed attempt of a number that counts from one. The last pause of the list
serves for all further attempts, and an empty list means no pause. -/
def delayAfter (p : RetryPolicy) (attempt : Nat) : Nat :=
  match p.delays[attempt - 1]? with
  | some d => d
  | none => p.delays.getLast?.getD 0

/-- The longest pause that is kept: thirty years of 365 days. -/
def longestPause : Nat := 30 * 365 * 86400

/-- The pause that is kept after a failed attempt; a longer one is cut short. -/
def pauseAfter (p : RetryPolicy) (attempt : Nat) : Nat := min (p.delayAfter attempt) longestPause

end RetryPolicy

/-- A delivery that succeeded, and on which attempt. -/
structure Receipt where
  recordId : Uuid
  attempts : Nat
  deriving DecidableEq, Repr

/-- What a finished delivery reports. -/
abbrev DeliveryResult := Except DeliveryError Receipt

/-- What follows an attempt; `more` says that another one is allowed. -/
inductive Verdict (more : Prop)
  | finished (result : DeliveryResult)
  | retryAfter (delay : Nat) (allowed : more)

/-- What follows the attempt of a number that counts from one. -/
def RetryPolicy.verdict (p : RetryPolicy) (recordId : Uuid) (attempt : Nat) :
    Except DeliveryError Unit → Verdict (attempt < p.attemptLimit)
  | .ok () => .finished (.ok { recordId := recordId, attempts := attempt })
  | .error e =>
    if h : e.isRetryable = true ∧ attempt < p.attemptLimit then
      .retryAfter (p.pauseAfter attempt) h.2
    else .finished (.error (.exhausted attempt e.message))

/-- A whole delivery: its result, and the second at which each attempt was made. -/
structure DeliveryRun where
  result : DeliveryResult
  attemptedAt : List Nat

section

variable {m : Type → Type} [Monad m]

/-- Runs a delivery from the attempt of a number on, which is made at the second `clock`. -/
def deliverFrom (p : RetryPolicy) (recordId : Uuid)
    (outcome : Nat → m (Except DeliveryError Unit)) (attempt clock : Nat) : m DeliveryRun := do
  match p.verdict recordId attempt (← outcome attempt) with
  | .finished result => return { result := result, attemptedAt := [clock] }
  | .retryAfter delay _ =>
    let run ← deliverFrom p recordId outcome (attempt + 1) (clock + delay)
    return { run with attemptedAt := clock :: run.attemptedAt }
termination_by p.attemptLimit - attempt

/-- Runs a delivery whose attempt of each number, counting from one, ends as `outcome` says. -/
def deliver (p : RetryPolicy) (recordId : Uuid)
    (outcome : Nat → m (Except DeliveryError Unit)) : m DeliveryRun :=
  deliverFrom p recordId outcome 1 0

end

end AdminConsole
