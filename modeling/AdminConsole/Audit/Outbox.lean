import AdminConsole.Audit.Journal

/-!
# The outbox

Submitted records are entered in the journal at once and delivered in the background. The outbox
keeps the deliveries under way, each due at some second, and its own clock, which moves only when
nothing is left to do at the present second. Deliveries that are due run one after the other, first
come first served; one that is to be repeated without a pause goes on at once.

Whoever waits for the end of a delivery sets this going. A waiting caller is looked after whenever
nothing is due at the present second, and otherwise each time `turnsAtOnce` deliveries have run. The
report of an ended delivery is taken once.

The channel answers each attempt: a log takes everything, and a rehearsed channel answers as its
script says and accepts everything after it. An attempt may be held until it is released, and a
delivery may die without a report.
-/

namespace AdminConsole

/-- How a rehearsed channel answers an attempt. -/
inductive Answer
  | accepted
  | failed (e : DeliveryError)
  /-- Waits for its release and is accepted then. -/
  | held
  /-- The delivery dies. -/
  | fatal
  deriving DecidableEq, Repr

/-- Where records go. -/
inductive Channel
  /-- Records are only logged. -/
  | log
  /-- The answers to the next attempts, whichever delivery makes them. -/
  | rehearsed (name : String) (script : List Answer)
  deriving DecidableEq, Repr

namespace Channel

/-- The name of the channel. -/
def name : Channel → String
  | log => "log"
  | rehearsed name _ => name

/-- The answers that are still to come. -/
def script : Channel → List Answer
  | log => []
  | rehearsed _ script => script

/-- The answer to the next attempt, and the channel after it. -/
def answer : Channel → Answer × Channel
  | log => (.accepted, log)
  | rehearsed name [] => (.accepted, rehearsed name [])
  | rehearsed name (a :: rest) => (a, rehearsed name rest)

/-- One attempt by itself, outside any outbox: nothing holds it up, and when it dies the program
stops. -/
def attempt : StateT Channel (Except Abort) (Except DeliveryError Unit) := fun c =>
  match c.answer with
  | (.accepted, c) | (.held, c) => .ok (.ok (), c)
  | (.failed e, c) => .ok (.error e, c)
  | (.fatal, _) => .error .channelDied

/-- The channel with further answers at the end of its script. -/
def extend (more : List Answer) : Channel → Channel
  | log => log
  | rehearsed name script => rehearsed name (script ++ more)

end Channel

/-- A delivery under way: its number, its record, and the number of its next attempt. -/
structure Parcel where
  task : Nat
  record : AuditRecord
  attempt : Nat
  deriving DecidableEq

/-- The journal and the deliveries under way. -/
structure Outbox where
  policy : RetryPolicy
  channel : Channel
  journal : Journal
  /-- The present second. -/
  clock : Nat
  /-- Deliveries by the second at which they are due, in order. -/
  agenda : List (Nat × Parcel)
  /-- Deliveries whose attempt is held, oldest first. -/
  held : List Parcel
  /-- Reports of ended deliveries. -/
  reports : List (Nat × DeliveryResult)
  /-- The deliveries whose report was taken. -/
  claimed : List Nat
  /-- The number of the next delivery. -/
  nextTask : Nat
  /-- The identifiers of the records of all attempts, newest first. -/
  attempts : List Uuid

namespace Outbox

/-- An outbox in which nothing has happened. -/
def idle (policy : RetryPolicy) (channel : Channel) : Outbox where
  policy := policy
  channel := channel
  journal := Journal.empty
  clock := 0
  agenda := []
  held := []
  reports := []
  claimed := []
  nextTask := 0
  attempts := []

/-- Puts a delivery behind all that are due no later. -/
def schedule (due : Nat) (p : Parcel) : List (Nat × Parcel) → List (Nat × Parcel)
  | [] => [(due, p)]
  | (t, q) :: rest => if t ≤ due then (t, q) :: schedule due p rest else (due, p) :: (t, q) :: rest

/-- Enters a record in the journal and plans its delivery; the number is that of the delivery. -/
def submit (o : Outbox) (r : AuditRecord) : Nat × Outbox :=
  (o.nextTask, { o with
    journal := o.journal.append r
    agenda := schedule o.clock { task := o.nextTask, record := r, attempt := 1 } o.agenda
    nextTask := o.nextTask + 1 })

/-- A delivery ends with a result, which is reported and entered in the journal. -/
def finish (o : Outbox) (p : Parcel) (result : DeliveryResult) : Outbox :=
  { o with
    journal := o.journal.setStatus p.record.id (.ofResult result)
    reports := (p.task, result) :: o.reports }

/-- The attempt of a delivery ends as given. -/
def conclude (o : Outbox) (p : Parcel) (outcome : Except DeliveryError Unit) : Outbox :=
  match o.policy.verdict p.record.id p.attempt outcome with
  | .finished result => o.finish p result
  | .retryAfter delay _ =>
    let next := { p with attempt := p.attempt + 1 }
    { o with
      agenda :=
        if delay = 0 then (o.clock, next) :: o.agenda
        else schedule (o.clock + delay) next o.agenda }

/-- A delivery that is due makes its attempt. -/
def attempt (o : Outbox) (p : Parcel) : Outbox :=
  let (answer, channel) := o.channel.answer
  let attempts :=
    match o.channel with
    | .log => o.attempts
    | .rehearsed _ _ => p.record.id :: o.attempts
  let o := { o with channel := channel, attempts := attempts }
  match answer with
  | .accepted => o.conclude p (.ok ())
  | .failed e => o.conclude p (.error e)
  | .held => { o with held := o.held ++ [p] }
  | .fatal => { o with reports := (p.task, .error (.task "the delivery died")) :: o.reports }

/-- The delivery that is due first makes its attempt, and the clock moves to its second. -/
def step (o : Outbox) : Outbox :=
  match o.agenda with
  | [] => o
  | (due, p) :: rest => attempt { o with agenda := rest, clock := max o.clock due } p

/-- A bound on the attempts that can still be made without a release: each either uses up an
answer of the script or ends its delivery. -/
def stepsLeft (o : Outbox) : Nat := o.agenda.length + o.channel.script.length

/-- Makes up to a number of attempts. -/
def run : Nat → Outbox → Outbox
  | 0, o => o
  | n + 1, o => run n o.step

/-- Makes attempts until nothing is due any more. -/
def settle (o : Outbox) : Outbox := run o.stepsLeft o

/-- The held attempt that has waited longest is accepted. -/
def releaseOne (o : Outbox) : Outbox :=
  match o.held with
  | [] => o
  | p :: rest => conclude { o with held := rest } p (.ok ())

/-- As many held attempts as given are accepted, oldest first, and everything settles. -/
def release : Nat → Outbox → Outbox
  | 0, o => o.settle
  | n + 1, o => release n o.releaseOne

/-- The number of deliveries that run before a waiting caller is looked after. -/
def turnsAtOnce : Nat := 61

/-- Lets up to a number of deliveries that are due by a second have their turn, in up to `fuel`
attempts. Attempts that follow one another without a pause are one turn. -/
def takeTurns (second : Nat) : (fuel turns : Nat) → Outbox → Outbox
  | fuel + 1, turns + 1, o =>
    match o.agenda with
    | [] => o
    | (due, p) :: _ =>
      if due ≤ second then
        let next := o.step
        let goesOn := (next.agenda.head?.map fun entry => entry.2.task) == some p.task
        takeTurns second fuel (if goesOn then turns + 1 else turns) next
      else o
  | _, _, o => o

/-- The report of a delivery, if it has ended. -/
def report? (o : Outbox) (task : Nat) : Option DeliveryResult := o.reports.lookup task

/-- Lets deliveries have their turns until a certain one has ended or nothing is due any more, in
up to `fuel` rounds. -/
def runFor (task : Nat) : (fuel : Nat) → Outbox → Outbox
  | 0, o => o
  | fuel + 1, o =>
    match o.report? task, o.agenda with
    | none, (due, _) :: _ => runFor task fuel (takeTurns due o.stepsLeft turnsAtOnce o)
    | _, _ => o

/-- Waits for the end of a delivery and takes its report. There is none if the delivery is unknown
or its report was taken before, and then nothing is waited for. -/
def wait (o : Outbox) (task : Nat) : Option DeliveryResult × Outbox :=
  if task < o.nextTask ∧ task ∉ o.claimed then
    let o := runFor task o.stepsLeft o
    (o.report? task, { o with claimed := task :: o.claimed })
  else (none, o)

end Outbox

end AdminConsole
