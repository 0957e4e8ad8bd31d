import AdminConsole.Proofs.Console.Perform

/-! # Calls side by side

`Console.perform` takes all its steps at once.  On the **floor** many calls are
under way at the same time, and between two steps of one call any others may
take theirs.  The steps of a call are the gate, the spawning of its task, the
change of the data, the submission of the record, and the reply.  The first two
and the last are the caller's, and a caller who is dropped takes none of them
any more.  The task belongs to nobody: once spawned it goes on to its end,
whether or not somebody waits for it.

The data and the outbox are locked one after the other, never together, so the
change and the record of one call are two steps, and others may come between.

A run is a list of **moves**, in any order and of any length; a move that is
not possible when its turn comes does nothing.  `Floor.moved` says all that a
move can do, and `Floor.run_alone` that a call whose moves nobody interrupts is
one `Console.perform`.
-/
namespace AdminConsole

/-- An action that is called for: by whom, from where, and what. -/
structure Call where
  actor : Actor
  origin : Origin
  action : Action

namespace Call

/-- The record of the call on an occasion. -/
def recordOf (c : Call) (occasion : Occasion) (target : String) : AuditRecord :=
  Console.recordOf c.actor c.origin occasion c.action.kind target

/-- The role in which the call was made grants what the action takes. -/
def Entitled (c : Call) : Prop := c.action.kind.permission ∈ c.actor.role.grants

/-- What the gate says to a call that it turns away. -/
def denial (c : Call) : AccessDenied :=
  { required := c.action.kind.permission, role := c.actor.role }

end Call

/-- How far a call has come. -/
inductive Stage
  | called
  | denied (d : AccessDenied)
  /-- The gate is passed, and no task is spawned yet. -/
  | passed
  /-- The task is spawned, and has done nothing yet. -/
  | spawned
  | refused (r : Refusal)
  /-- The data is changed, and the record not submitted yet. -/
  | changed (now : Instant) (done : Performed)
  | recorded (now : Instant) (done : Performed) (record : AuditRecord)

namespace Stage

/-- The change that was made, and when. -/
def change? : Stage → Option (Instant × Performed)
  | changed now done | recorded now done _ => some (now, done)
  | _ => none

/-- The record that was submitted. -/
def record? : Stage → Option AuditRecord
  | recorded _ _ record => some record
  | _ => none

/-- What there is to reply, once the call has ended. -/
def outcome? : Stage → Option (Except Refusal (Gated ActionReceipt))
  | denied d => some (.ok (.denied d))
  | refused r => some (.error r)
  | recorded _ done record =>
    some (.ok (.allowed { result := done.result, recordId := record.id }))
  | _ => none

/-- A spawned task has a step left. -/
def Busy : Stage → Prop
  | spawned | changed _ _ => True
  | _ => False

end Stage

/-- Whoever called and waits for the reply. -/
inductive Caller
  | waiting
  | answered (outcome : Except Refusal (Gated ActionReceipt))
  | gone

/-- A call under way. -/
structure Job where
  call : Call
  stage : Stage
  caller : Caller

/-- A change that was made, with the number of the call that made it. -/
structure Change where
  number : Nat
  call : Call
  now : Instant
  done : Performed

/-- A record that was submitted, with the number of the call that submitted it. -/
structure Submission where
  number : Nat
  record : AuditRecord

/-- The console with the calls that are under way; a call's number is its place among them.  Two
logs, oldest first, keep what was done to the data and to the outbox. -/
structure Floor where
  console : Console
  jobs : List Job
  changes : List Change
  trail : List Submission

/-- A step of one call, with what the surroundings give to it. -/
inductive Turn
  | check
  | spawn
  | mutate (now : Instant)
  | submit (occasion : Occasion)
  | reply
  /-- The caller is dropped. -/
  | drop

/-- What can happen on the floor. -/
inductive Move
  | ask (call : Call)
  | turn (number : Nat) (t : Turn)
  /-- A delivery that is due makes its attempt. -/
  | deliver
  /-- A held attempt is released. -/
  | release

namespace Move

/-- The call that the move brings. -/
def call? : Move → Option Call
  | ask call => some call
  | _ => none

/-- The calls that moves bring, by number. -/
def calls (moves : List Move) : List Call := moves.filterMap call?

end Move

namespace Floor

/-! ## Steps -/

/-- A floor without calls. -/
def opened (c : Console) : Floor := { console := c, jobs := [], changes := [], trail := [] }

/-- Puts a call's new state in its place. -/
def put (f : Floor) (number : Nat) (j : Job) : Floor := { f with jobs := f.jobs.set number j }

/-- Somebody calls. -/
def ask (f : Floor) (call : Call) : Floor :=
  { f with jobs := f.jobs ++ [{ call := call, stage := .called, caller := .waiting }] }

/-- The call comes to its gate. -/
def check (f : Floor) (number : Nat) (j : Job) : Floor :=
  match Gate.check j.call.actor j.call.action.kind.permission with
  | .ok () => f.put number { j with stage := .passed }
  | .error d => f.put number { j with stage := .denied d }

/-- The task lets its action edit the data. -/
def mutate (f : Floor) (number : Nat) (j : Job) (now : Instant) : Floor :=
  match (Console.change j.call.actor now j.call.action).exec f.console with
  | (.ok done, console) =>
    { console := console
      jobs := f.jobs.set number { j with stage := .changed now done }
      changes := f.changes ++ [{ number := number, call := j.call, now := now, done := done }]
      trail := f.trail }
  | (.error r, console) =>
    { f with console := console, jobs := f.jobs.set number { j with stage := .refused r } }

/-- The task submits the record of a change that was made. -/
def submit (f : Floor) (number : Nat) (j : Job) (now : Instant) (done : Performed)
    (occasion : Occasion) : Floor :=
  let record := j.call.recordOf occasion done.target
  { console := ((Console.submit record).exec f.console).2
    jobs := f.jobs.set number { j with stage := .recorded now done record }
    changes := f.changes
    trail := f.trail ++ [{ number := number, record := record }] }

/-- The caller takes the reply, if there is one. -/
def reply (f : Floor) (number : Nat) (j : Job) : Floor :=
  match j.stage.outcome? with
  | some outcome => f.put number { j with caller := .answered outcome }
  | none => f

/-- A call takes a step, if it is at it: the caller's steps need a caller that waits, the task's
need none. -/
def take (f : Floor) (number : Nat) (j : Job) (t : Turn) : Floor :=
  match t, j.stage, j.caller with
  | .check, .called, .waiting => f.check number j
  | .spawn, .passed, .waiting => f.put number { j with stage := .spawned }
  | .mutate now, .spawned, _ => f.mutate number j now
  | .submit occasion, .changed now done, _ => f.submit number j now done occasion
  | .reply, _, .waiting => f.reply number j
  | .drop, _, .waiting => f.put number { j with caller := .gone }
  | _, _, _ => f

/-- One move. -/
def step (f : Floor) : Move → Floor
  | .ask call => f.ask call
  | .turn number t =>
    match f.jobs[number]? with
    | some j => f.take number j t
    | none => f
  | .deliver => { f with console := { f.console with outbox := f.console.outbox.step } }
  | .release => { f with console := { f.console with outbox := f.console.outbox.releaseOne } }

/-- Moves one after the other. -/
def run (f : Floor) (moves : List Move) : Floor := moves.foldl step f

/-- No spawned task has a step left. -/
def Quiet (f : Floor) : Prop := ∀ j ∈ f.jobs, ¬ j.stage.Busy

@[simp] theorem run_nil (f : Floor) : f.run [] = f := rfl

@[simp] theorem run_cons (f : Floor) (m : Move) (moves : List Move) :
    f.run (m :: moves) = (f.step m).run moves := rfl

theorem step_turn {f : Floor} {number : Nat} {j : Job} (hj : f.jobs[number]? = some j) (t : Turn) :
    f.step (.turn number t) = f.take number j t := by
  simp only [step, hj]

theorem step_turn_none {f : Floor} {number : Nat} (hj : f.jobs[number]? = none) (t : Turn) :
    f.step (.turn number t) = f := by
  simp only [step, hj]

theorem run_append (f : Floor) (moves more : List Move) :
    f.run (moves ++ more) = (f.run moves).run more := List.foldl_append

/-! ## All that a move can do -/

end Floor

/-- A step of a call that touches neither the data nor the outbox. -/
inductive Shift : Job → Job → Prop
  | pass {call : Call} : call.Entitled → Shift ⟨call, .called, .waiting⟩ ⟨call, .passed, .waiting⟩
  | deny {call : Call} : ¬ call.Entitled →
      Shift ⟨call, .called, .waiting⟩ ⟨call, .denied call.denial, .waiting⟩
  | spawn {call : Call} : Shift ⟨call, .passed, .waiting⟩ ⟨call, .spawned, .waiting⟩
  | refuse {call : Call} {caller : Caller} (r : Refusal) :
      Shift ⟨call, .spawned, caller⟩ ⟨call, .refused r, caller⟩
  | answer {call : Call} {stage : Stage} {outcome : Except Refusal (Gated ActionReceipt)} :
      stage.outcome? = some outcome → Shift ⟨call, stage, .waiting⟩ ⟨call, stage, .answered outcome⟩
  | leave {call : Call} {stage : Stage} : Shift ⟨call, stage, .waiting⟩ ⟨call, stage, .gone⟩

/-- All that a move can make of a floor. -/
inductive Moved (f : Floor) : Move → Floor → Prop
  | asked (call : Call) : Moved f (.ask call) (f.ask call)
  | rest {number : Nat} {t : Turn} : Moved f (.turn number t) f
  | shifted {number : Nat} {t : Turn} {j j' : Job} :
      f.jobs[number]? = some j → Shift j j' → Moved f (.turn number t) (f.put number j')
  | mutated {number : Nat} {call : Call} {caller : Caller} {now : Instant} {done : Performed}
      {data : Data} :
      f.jobs[number]? = some ⟨call, .spawned, caller⟩ →
      (call.action.run call.actor.id now).exec f.console.data = (.ok done, data) →
      Moved f (.turn number (.mutate now)) {
        console := { f.console with data := data }
        jobs := f.jobs.set number ⟨call, .changed now done, caller⟩
        changes := f.changes ++ [⟨number, call, now, done⟩]
        trail := f.trail }
  | submitted {number : Nat} {call : Call} {caller : Caller} {now : Instant} {done : Performed}
      (occasion : Occasion) :
      f.jobs[number]? = some ⟨call, .changed now done, caller⟩ →
      Moved f (.turn number (.submit occasion))
        (f.submit number ⟨call, .changed now done, caller⟩ now done occasion)
  | delivered {m : Move} {outbox : Outbox} : m.call? = none → f.console.outbox.Keeps outbox →
      Moved f m { f with console := { f.console with outbox := outbox } }

namespace Floor

theorem check_of_entitled (f : Floor) (number : Nat) {j : Job} (hp : j.call.Entitled) :
    f.check number j = f.put number { j with stage := .passed } := by
  unfold check Gate.check
  rw [if_pos (Actor.can_eq_true.mpr hp)]

theorem check_of_not_entitled (f : Floor) (number : Nat) {j : Job} (hp : ¬ j.call.Entitled) :
    f.check number j = f.put number { j with stage := .denied j.call.denial } := by
  unfold check Gate.check
  rw [if_neg (fun hc => hp (Actor.can_eq_true.mp hc))]
  rfl

theorem mutate_of_ok {f : Floor} (number : Nat) {j : Job} {now : Instant} {done : Performed}
    {data : Data}
    (h : (j.call.action.run j.call.actor.id now).exec f.console.data = (.ok done, data)) :
    f.mutate number j now = {
      console := { f.console with data := data }
      jobs := f.jobs.set number { j with stage := .changed now done }
      changes := f.changes ++ [⟨number, j.call, now, done⟩]
      trail := f.trail } := by
  unfold mutate Console.change
  rw [Edit.exec_within, h]

/-- A refused action has left the data alone, so that nothing but the call's stage changes. -/
theorem mutate_of_error {f : Floor} (number : Nat) {j : Job} {now : Instant} {r : Refusal}
    {data : Data}
    (h : (j.call.action.run j.call.actor.id now).exec f.console.data = (.error r, data)) :
    f.mutate number j now = f.put number { j with stage := .refused r } := by
  have hdata := Action.run_atomic j.call.actor.id now j.call.action f.console.data data r h
  subst data
  unfold mutate Console.change
  rw [Edit.exec_within, h]
  rfl

theorem moved_check {f : Floor} {number : Nat} {call : Call}
    (h : f.jobs[number]? = some ⟨call, .called, .waiting⟩) :
    Moved f (.turn number .check) (f.check number ⟨call, .called, .waiting⟩) := by
  by_cases hp : call.Entitled
  · rw [check_of_entitled _ _ hp]
    exact Moved.shifted h (Shift.pass hp)
  · rw [check_of_not_entitled _ _ hp]
    exact Moved.shifted h (Shift.deny hp)

theorem moved_mutate {f : Floor} {number : Nat} {call : Call} {caller : Caller} (now : Instant)
    (h : f.jobs[number]? = some ⟨call, .spawned, caller⟩) :
    Moved f (.turn number (.mutate now)) (f.mutate number ⟨call, .spawned, caller⟩ now) := by
  rcases hrun : (call.action.run call.actor.id now).exec f.console.data with ⟨r | done, data⟩
  · rw [mutate_of_error number hrun]
    exact Moved.shifted h (Shift.refuse r)
  · rw [mutate_of_ok number hrun]
    exact Moved.mutated h hrun

theorem moved_reply {f : Floor} {number : Nat} {call : Call} {stage : Stage}
    (h : f.jobs[number]? = some ⟨call, stage, .waiting⟩) :
    Moved f (.turn number .reply) (f.reply number ⟨call, stage, .waiting⟩) := by
  unfold reply
  split
  · next outcome ho => exact Moved.shifted h (Shift.answer ho)
  · exact Moved.rest

theorem moved_take {f : Floor} {number : Nat} {j : Job} (h : f.jobs[number]? = some j) (t : Turn) :
    Moved f (.turn number t) (f.take number j t) := by
  obtain ⟨call, stage, caller⟩ := j
  unfold take
  -- The caller's steps need a waiting caller and the right stage, the task's the right stage.
  split
  · next hs hc => subst hs hc; exact moved_check h
  · next hs hc => subst hs hc; exact Moved.shifted h Shift.spawn
  · next now hs => subst hs; exact moved_mutate now h
  · next occasion now done hs => subst hs; exact Moved.submitted occasion h
  · next hc => subst hc; exact moved_reply h
  · next hc => subst hc; exact Moved.shifted h Shift.leave
  · exact Moved.rest

/-- **A move does one of six things.** -/
theorem moved (f : Floor) (m : Move) : Moved f m (f.step m) := by
  cases m with
  | ask call => exact Moved.asked call
  | turn number t =>
    cases h : f.jobs[number]? with
    | none =>
      rw [step_turn_none h]
      exact Moved.rest
    | some j =>
      rw [step_turn h]
      exact moved_take h t
  | deliver => exact Moved.delivered rfl (Outbox.keeps_step _)
  | release => exact Moved.delivered rfl (Outbox.keeps_releaseOne _)

/-! ## A call alone -/

/-- The moves of one call from its beginning to its end. -/
def wholeCall (call : Call) (number : Nat) (occasion : Occasion) : List Move :=
  [.ask call, .turn number .check, .turn number .spawn, .turn number (.mutate occasion.now),
    .turn number (.submit occasion), .turn number .reply]

/-- The newest call on the floor, the calls before it, and the console. -/
structure Newest (f : Floor) (jobs : List Job) (j : Job) (c : Console) : Prop where
  jobs : f.jobs = jobs ++ [j]
  console : f.console = c

namespace Newest

variable {f : Floor} {jobs : List Job} {j : Job} {c : Console} {call : Call}

theorem step_eq (h : f.Newest jobs j c) (t : Turn) :
    f.step (.turn jobs.length t) = f.take jobs.length j t := by
  refine step_turn ?_ t
  rw [h.jobs, List.getElem?_concat_length]

theorem set_eq (h : f.Newest jobs j c) (j' : Job) : f.jobs.set jobs.length j' = jobs ++ [j'] := by
  rw [h.jobs, List.set_append_right _ _ (Nat.le_refl _), Nat.sub_self, List.set_cons_zero]

theorem put (h : f.Newest jobs j c) (j' : Job) : (f.put jobs.length j').Newest jobs j' c :=
  ⟨h.set_eq j', h.console⟩

/-- A step for which the call is not at the right stage changes nothing. -/
theorem rest (h : f.Newest jobs j c) {t : Turn} (ht : f.take jobs.length j t = f) :
    (f.step (.turn jobs.length t)).Newest jobs j c := by
  rw [h.step_eq, ht]
  exact h

theorem check_entitled (h : f.Newest jobs ⟨call, .called, .waiting⟩ c) (hp : call.Entitled) :
    (f.step (.turn jobs.length .check)).Newest jobs ⟨call, .passed, .waiting⟩ c := by
  rw [h.step_eq]
  show (f.check jobs.length _).Newest _ _ _
  rw [check_of_entitled _ _ hp]
  exact h.put _

theorem check_not_entitled (h : f.Newest jobs ⟨call, .called, .waiting⟩ c) (hp : ¬ call.Entitled) :
    (f.step (.turn jobs.length .check)).Newest jobs ⟨call, .denied call.denial, .waiting⟩ c := by
  rw [h.step_eq]
  show (f.check jobs.length _).Newest _ _ _
  rw [check_of_not_entitled _ _ hp]
  exact h.put _

theorem spawn (h : f.Newest jobs ⟨call, .passed, .waiting⟩ c) :
    (f.step (.turn jobs.length .spawn)).Newest jobs ⟨call, .spawned, .waiting⟩ c := by
  rw [h.step_eq]
  exact h.put _

theorem mutate_ok (h : f.Newest jobs ⟨call, .spawned, .waiting⟩ c) {now : Instant}
    {done : Performed} {data : Data}
    (hrun : (call.action.run call.actor.id now).exec c.data = (.ok done, data)) :
    (f.step (.turn jobs.length (.mutate now))).Newest jobs ⟨call, .changed now done, .waiting⟩
      { c with data := data } := by
  obtain ⟨hjobs, rfl⟩ := h
  rw [step_eq ⟨hjobs, rfl⟩]
  show (f.mutate jobs.length _ now).Newest _ _ _
  rw [mutate_of_ok jobs.length hrun]
  exact ⟨set_eq ⟨hjobs, rfl⟩ _, rfl⟩

theorem mutate_error (h : f.Newest jobs ⟨call, .spawned, .waiting⟩ c) {now : Instant} {r : Refusal}
    {data : Data} (hrun : (call.action.run call.actor.id now).exec c.data = (.error r, data)) :
    (f.step (.turn jobs.length (.mutate now))).Newest jobs ⟨call, .refused r, .waiting⟩ c := by
  obtain ⟨hjobs, rfl⟩ := h
  rw [step_eq ⟨hjobs, rfl⟩]
  show (f.mutate jobs.length _ now).Newest _ _ _
  rw [mutate_of_error jobs.length hrun]
  exact put ⟨hjobs, rfl⟩ _

theorem submit {now : Instant} {done : Performed} (occasion : Occasion)
    (h : f.Newest jobs ⟨call, .changed now done, .waiting⟩ c) :
    (f.step (.turn jobs.length (.submit occasion))).Newest jobs
      ⟨call, .recorded now done (call.recordOf occasion done.target), .waiting⟩
      { c with outbox := (c.outbox.submit (call.recordOf occasion done.target)).2 } := by
  rw [h.step_eq, ← h.console]
  exact ⟨h.set_eq _, rfl⟩

theorem reply {stage : Stage} {outcome : Except Refusal (Gated ActionReceipt)}
    (h : f.Newest jobs ⟨call, stage, .waiting⟩ c) (ho : stage.outcome? = some outcome) :
    (f.step (.turn jobs.length .reply)).Newest jobs ⟨call, stage, .answered outcome⟩ c := by
  have htake : f.take jobs.length ⟨call, stage, .waiting⟩ .reply =
      f.put jobs.length ⟨call, stage, .answered outcome⟩ := by
    show f.reply jobs.length ⟨call, stage, .waiting⟩ = _
    unfold Floor.reply
    rw [ho]
  rw [h.step_eq, htake]
  exact h.put _

end Newest

/-- **A call that nobody interrupts is one `Console.perform`**: it leaves the console that
`Console.perform` leaves, and its caller is answered what `Console.perform` yields. -/
theorem run_alone (f : Floor) (call : Call) (occasion : Occasion) :
    ∃ stage, (f.run (wholeCall call f.jobs.length occasion)).Newest f.jobs
      { call := call
        stage := stage
        caller := .answered
          (Console.perform call.actor call.origin occasion call.action f.console).1 }
      (Console.perform call.actor call.origin occasion call.action f.console).2 := by
  have hasked : (f.ask call).Newest f.jobs ⟨call, .called, .waiting⟩ f.console := ⟨rfl, rfl⟩
  simp only [wholeCall, run_cons, run_nil]
  change ∃ stage, ((((((f.ask call).step _).step _).step _).step _).step _).Newest _ _ _
  -- A call that ends early stands still when the turns that are left come.
  rcases Console.perform_cases call.actor call.origin occasion call.action f.console with
    ⟨hp, h⟩ | ⟨hp, r, hrun, h⟩ | ⟨hp, done, data, hrun, h⟩
  · rw [h]
    have hdenied := hasked.check_not_entitled hp
    exact ⟨_, (((hdenied.rest rfl).rest rfl).rest rfl).reply rfl⟩
  · rw [h]
    have hspawned := (hasked.check_entitled hp).spawn
    exact ⟨_, ((hspawned.mutate_error hrun).rest rfl).reply rfl⟩
  · rw [h]
    have hchanged := ((hasked.check_entitled hp).spawn).mutate_ok hrun
    exact ⟨_, (hchanged.submit occasion).reply rfl⟩

end Floor

end AdminConsole
