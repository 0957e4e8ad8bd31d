import AdminConsole.Proofs.Audit.Journal
import AdminConsole.Proofs.List.Place

/-! # Deliveries side by side

The outbox lets deliveries run one at a time, by the second and first come
first served.  In a **depot** they run side by side: a record may be submitted
at any moment, and between two steps of one delivery any others may take
theirs.  A delivery makes its attempts, each of which ends in any way
whatever; when the policy has decided, the result is known to the delivery and
not yet to the journal; at last the result is entered in the journal, and with
that it is reported.  An attempt may also kill its delivery.  Then nothing is
entered, and all that is reported is the death.

A run is a list of **moves**, in any order and of any length; a move that is
not possible when its turn comes does nothing.  `Depot.moved` says all that a
move can do.
-/
namespace AdminConsole

/-! ## Results -/

namespace RetryPolicy

variable {p : RetryPolicy} {id : Uuid}

/-- The results to which a delivery of a record can come.  It made at least one attempt and no more
than it may; if it was given up, it says after how many. -/
inductive Allows (p : RetryPolicy) (id : Uuid) : DeliveryResult → Prop
  | delivered {attempts : Nat} : 1 ≤ attempts → attempts ≤ p.attemptLimit →
      Allows p id (.ok { recordId := id, attempts := attempts })
  | givenUp {attempts : Nat} {lastError : String} : 1 ≤ attempts → attempts ≤ p.attemptLimit →
      Allows p id (.error (.exhausted attempts lastError))

theorem one_le_attemptLimit (p : RetryPolicy) : 1 ≤ p.attemptLimit := Nat.le_max_left 1 _

/-- Whatever the attempt ended with, a delivery that ends there has a result of its own kind. -/
theorem allows_of_finished {attempt : Nat} {outcome : Except DeliveryError Unit}
    {result : DeliveryResult} (hfirst : 1 ≤ attempt) (hlast : attempt ≤ p.attemptLimit)
    (h : p.verdict id attempt outcome = .finished result) : p.Allows id result := by
  cases outcome with
  | ok _ =>
    obtain rfl := Verdict.finished.inj h
    exact Allows.delivered hfirst hlast
  | error e =>
    simp only [verdict] at h
    split at h
    · cases h
    · obtain rfl := Verdict.finished.inj h
      exact Allows.givenUp hfirst hlast

end RetryPolicy

/-- A delivery that runs on its own comes to a result that the policy allows. -/
theorem allows_deliverFrom (p : RetryPolicy) (id : Uuid)
    (outcome : Nat → Id (Except DeliveryError Unit)) {attempt : Nat} (clock : Nat)
    (hfirst : 1 ≤ attempt) (hlast : attempt ≤ p.attemptLimit) :
    p.Allows id (deliverFrom p id outcome attempt clock).run.result := by
  fun_induction deliverFrom p id outcome attempt clock with
  | case1 attempt clock ih =>
    simp only [Id.run_bind]
    split
    · next result hr => exact RetryPolicy.allows_of_finished hfirst hlast hr
    · next delay hmore _ => exact ih delay hmore (by omega) hmore

/-! ## Deliveries -/

/-- How an attempt ends. -/
inductive Ending
  | returned (outcome : Except DeliveryError Unit)
  /-- The delivery dies, for the reason given. -/
  | fatal (reason : String)

/-- How far a delivery has come. -/
inductive DeliveryStage
  /-- It is about to make its attempt of the number. -/
  | trying (attempt : Nat)
  /-- It has its result, and the journal does not know it yet. -/
  | decided (result : DeliveryResult)
  /-- Its result is in the journal. -/
  | ended (result : DeliveryResult)
  | died (reason : String)

namespace DeliveryStage

/-- The stage to which the attempt of a number leads. -/
def after (p : RetryPolicy) (id : Uuid) (attempt : Nat) : Ending → DeliveryStage
  | .fatal reason => died reason
  | .returned outcome =>
    match p.verdict id attempt outcome with
    | .finished result => decided result
    | .retryAfter _ _ => trying (attempt + 1)

theorem after_finished {p : RetryPolicy} {id : Uuid} {attempt : Nat}
    {outcome : Except DeliveryError Unit} {result : DeliveryResult}
    (h : p.verdict id attempt outcome = .finished result) :
    after p id attempt (.returned outcome) = decided result := by
  simp only [after, h]

theorem after_retry {p : RetryPolicy} {id : Uuid} {attempt delay : Nat}
    {outcome : Except DeliveryError Unit} {hmore : attempt < p.attemptLimit}
    (h : p.verdict id attempt outcome = .retryAfter delay hmore) :
    after p id attempt (.returned outcome) = trying (attempt + 1) := by
  simp only [after, h]

/-- What the delivery reports, once it has come to its end. -/
def report? : DeliveryStage → Option DeliveryResult
  | ended result => some result
  | died reason => some (.error (.task reason))
  | _ => none

/-- The state of the delivery as far as it tells the journal. -/
def status : DeliveryStage → DeliveryStatus
  | ended result => .ofResult result
  | _ => .pending

/-- What is known of a delivery at the stage. -/
def Sound (p : RetryPolicy) (id : Uuid) : DeliveryStage → Prop
  | trying attempt => 1 ≤ attempt ∧ attempt ≤ p.attemptLimit
  | decided result | ended result => p.Allows id result
  | died _ => True

theorem sound_after {p : RetryPolicy} {id : Uuid} {attempt : Nat}
    (h : (trying attempt).Sound p id) (ending : Ending) : (after p id attempt ending).Sound p id := by
  obtain ⟨hfirst, hlast⟩ := h
  cases ending with
  | fatal reason => exact trivial
  | returned outcome =>
    simp only [after]
    split
    · next result hr => exact RetryPolicy.allows_of_finished hfirst hlast hr
    · next delay hmore _ => exact ⟨by omega, hmore⟩

theorem status_after (p : RetryPolicy) (id : Uuid) (attempt : Nat) (ending : Ending) :
    (after p id attempt ending).status = .pending := by
  cases ending with
  | fatal reason => rfl
  | returned outcome =>
    simp only [after]
    split <;> rfl

end DeliveryStage

/-- A record on its way. -/
structure Delivery where
  record : AuditRecord
  stage : DeliveryStage

/-- The journal and all deliveries that there ever were; a delivery's number is its place among
them. -/
structure Depot where
  policy : RetryPolicy
  journal : Journal
  deliveries : List Delivery

namespace Depot

/-! ## Steps -/

/-- What can happen in a depot. -/
inductive Move
  | submit (r : AuditRecord)
  | attempt (number : Nat) (ending : Ending)
  /-- A delivery enters its result in the journal. -/
  | complete (number : Nat)

/-- The record that the move brings. -/
def Move.record? : Move → Option AuditRecord
  | submit r => some r
  | _ => none

/-- The records that moves bring, in order. -/
def Move.records (moves : List Move) : List AuditRecord := moves.filterMap record?

theorem Move.records_append (moves more : List Move) :
    records (moves ++ more) = records moves ++ records more := List.filterMap_append

/-- A depot to which nothing was submitted. -/
def opened (policy : RetryPolicy) : Depot where
  policy := policy
  journal := Journal.empty
  deliveries := []

/-- Puts a delivery's new state in its place. -/
def put (d : Depot) (number : Nat) (v : Delivery) : Depot :=
  { d with deliveries := d.deliveries.set number v }

/-- Enters a record in the journal, and starts its delivery. -/
def submit (d : Depot) (r : AuditRecord) : Depot :=
  { d with
    journal := d.journal.append r
    deliveries := d.deliveries ++ [{ record := r, stage := .trying 1 }] }

/-- A delivery enters its result in the journal. -/
def complete (d : Depot) (number : Nat) (r : AuditRecord) (result : DeliveryResult) : Depot :=
  { d with
    journal := d.journal.setStatus r.id (.ofResult result)
    deliveries := d.deliveries.set number { record := r, stage := .ended result } }

/-- One move. -/
def step (d : Depot) : Move → Depot
  | .submit r => d.submit r
  | .attempt number ending =>
    match d.deliveries[number]? with
    | some ⟨r, .trying attempt⟩ => d.put number ⟨r, .after d.policy r.id attempt ending⟩
    | _ => d
  | .complete number =>
    match d.deliveries[number]? with
    | some ⟨r, .decided result⟩ => d.complete number r result
    | _ => d

/-- Moves one after the other. -/
def run (d : Depot) (moves : List Move) : Depot := moves.foldl step d

@[simp] theorem run_nil (d : Depot) : d.run [] = d := rfl

@[simp] theorem run_cons (d : Depot) (m : Move) (moves : List Move) :
    d.run (m :: moves) = (d.step m).run moves := rfl

theorem run_append (d : Depot) (moves more : List Move) :
    d.run (moves ++ more) = (d.run moves).run more := List.foldl_append

theorem step_attempt {d : Depot} {number attempt : Nat} {r : AuditRecord}
    (h : d.deliveries[number]? = some ⟨r, .trying attempt⟩) (ending : Ending) :
    d.step (.attempt number ending) = d.put number ⟨r, .after d.policy r.id attempt ending⟩ := by
  simp only [step, h]

theorem step_complete {d : Depot} {number : Nat} {r : AuditRecord} {result : DeliveryResult}
    (h : d.deliveries[number]? = some ⟨r, .decided result⟩) :
    d.step (.complete number) = d.complete number r result := by
  simp only [step, h]

/-- All that a move can make of a depot. -/
inductive Moved (d : Depot) : Move → Depot → Prop
  | submitted (r : AuditRecord) : Moved d (.submit r) (d.submit r)
  | rest {m : Move} : m.record? = none → Moved d m d
  | tried {number attempt : Nat} {r : AuditRecord} (ending : Ending) :
      d.deliveries[number]? = some ⟨r, .trying attempt⟩ →
      Moved d (.attempt number ending) (d.put number ⟨r, .after d.policy r.id attempt ending⟩)
  | completed {number : Nat} {r : AuditRecord} {result : DeliveryResult} :
      d.deliveries[number]? = some ⟨r, .decided result⟩ →
      Moved d (.complete number) (d.complete number r result)

/-- **A move does one of four things.** -/
theorem moved (d : Depot) (m : Move) : Moved d m (d.step m) := by
  cases m with
  | submit r => exact Moved.submitted r
  | attempt number ending =>
    simp only [step]
    split
    · next r attempt h => exact Moved.tried ending h
    · exact Moved.rest rfl
  | complete number =>
    simp only [step]
    split
    · next r result h => exact Moved.completed h
    · exact Moved.rest rfl

/-! ## Runs -/

namespace Moved

variable {d d' : Depot} {m : Move}

/-- Deliveries keep their records and their places, and only a submission adds one. -/
theorem records (h : Moved d m d') :
    d'.deliveries.map Delivery.record = d.deliveries.map Delivery.record ++ m.record?.toList := by
  have hset : ∀ {k : Nat} {v : Delivery} (w : Delivery), d.deliveries[k]? = some v →
      w.record = v.record → (d.deliveries.set k w).map Delivery.record =
        d.deliveries.map Delivery.record ++ [] := by
    intro k v w hv hr
    rw [map_set_eq hv hr, List.append_nil]
  cases h with
  | submitted r => exact List.map_append
  | rest hm => rw [hm, Option.toList_none, List.append_nil]
  | tried ending hv => exact hset ⟨_, _⟩ hv rfl
  | completed hv => exact hset ⟨_, _⟩ hv rfl

/-- A delivery that has reported has come to its end. -/
theorem reported (h : Moved d m d') {number : Nat} {v : Delivery}
    (hv : d.deliveries[number]? = some v) (hend : v.stage.report? ≠ none) :
    d'.deliveries[number]? = some v := by
  have hlt : number < d.deliveries.length := (List.getElem?_eq_some_iff.mp hv).1
  -- A delivery that takes a step has reported nothing yet, so it is another one.
  have hother : ∀ {k : Nat} {w w' : Delivery}, d.deliveries[k]? = some w →
      w.stage.report? = none → (d.deliveries.set k w')[number]? = some v := by
    intro k w w' hw hnone
    have hne : k ≠ number := by
      rintro rfl
      obtain rfl := Option.some.inj (hw.symm.trans hv)
      exact hend hnone
    rw [List.getElem?_set_ne hne, hv]
  cases h with
  | submitted r =>
    show (d.deliveries ++ [_])[number]? = some v
    rw [List.getElem?_append_left hlt, hv]
  | rest _ => exact hv
  | tried ending hw => exact hother hw rfl
  | completed hw => exact hother hw rfl

end Moved

theorem records_run (d : Depot) (moves : List Move) :
    (d.run moves).deliveries.map Delivery.record =
      d.deliveries.map Delivery.record ++ Move.records moves := by
  induction moves generalizing d with
  | nil => exact (List.append_nil _).symm
  | cons m moves ih =>
    rw [run_cons, ih, (d.moved m).records, List.append_assoc, Move.records, Move.records,
      List.filterMap_cons]
    cases m.record? <;> rfl

theorem reported_run {d : Depot} {number : Nat} {v : Delivery}
    (hv : d.deliveries[number]? = some v) (hend : v.stage.report? ≠ none) (moves : List Move) :
    (d.run moves).deliveries[number]? = some v := by
  induction moves generalizing d with
  | nil => exact hv
  | cons m moves ih => exact ih ((d.moved m).reported hv hend)

end Depot

end AdminConsole
