import AdminConsole.Action.Apply
import AdminConsole.Page.Request

/-!
# The console

The data together with the outbox of audit records. Every page and every action stands behind its
gate, which is passed before anything else is looked at. An action that is performed changes the
data and submits one record; one that is denied or refused does neither.
-/

namespace AdminConsole

/-- The data and the outbox. -/
structure Console where
  data : Data
  outbox : Outbox

/-- What the surroundings give to an action: the present instant, and an identifier for its
record. -/
structure Occasion where
  now : Instant
  recordId : Uuid
  deriving DecidableEq

/-- What an action that was performed reports. -/
structure ActionReceipt where
  result : Affected
  recordId : Uuid
  deriving DecidableEq

/-- The report as a value. -/
def ActionReceipt.toJson (r : ActionReceipt) : Json :=
  .obj [("result", r.result.toJson), ("audit_record_id", .str r.recordId.text)]

namespace Console

/-! ## Actions -/

/-- The record of an action. -/
def recordOf (actor : Actor) (origin : Origin) (occasion : Occasion) (kind : ActionKind)
    (target : String) : AuditRecord where
  id := occasion.recordId
  action := kind.name
  actor := actor
  target := some target
  ip := origin.ip
  device := origin.device
  timestamp := occasion.now

/-- Lets an action edit the data. -/
def change (actor : Actor) (now : Instant) (a : Action) : Edit Console Performed :=
  Edit.within Console.data (fun data c => { c with data := data }) (a.run actor.id now)

/-- Submits a record to the outbox. -/
def submit (record : AuditRecord) : Edit Console Unit :=
  modify fun c => { c with outbox := (c.outbox.submit record).2 }

/-- Changes the data, and submits the record when the change is in place. -/
def commit (actor : Actor) (origin : Origin) (occasion : Occasion) (a : Action) :
    StateM Console (Except Refusal ActionReceipt) := ExceptT.run do
  let done ← change actor occasion.now a
  let record := recordOf actor origin occasion a.kind done.target
  submit record
  return { result := done.result, recordId := record.id }

/-- Performs an action behind its gate. -/
def perform (actor : Actor) (origin : Origin) (occasion : Occasion) (a : Action) :
    StateM Console (Except Refusal (Gated ActionReceipt)) :=
  Gated.transpose <$> Gate.guarded actor a.kind.permission (commit actor origin occasion a)

/-! ## Pages -/

/-- The page behind its gate. -/
def render (c : Console) (overflow : Overflow) (actor : Actor) :
    PageRequest → Except Abort (Except Refusal Page)
  | .overview => (OverviewPage.of overflow actor c.data).map fun page => .ok (.overview page)
  | .members status => .ok (.ok (.members (.of actor status c.data)))
  | .member id =>
    match MemberPage.of? actor id c.data with
    | some page => .ok (.ok (.member page))
    | none => .ok (.error .noMember)
  | .moderation status => .ok (.ok (.moderation (.of actor status c.data)))
  | .engagement => (EngagementPage.of overflow c.data).map fun page => .ok (.engagement page)
  | .revenue => (RevenuePage.of overflow c.data).map fun page => .ok (.revenue page)
  | .payments => (PaymentsPage.of overflow actor c.data).map fun page => .ok (.payments page)
  | .ads => (AdsPage.of overflow actor c.data).map fun page => .ok (.ads page)
  | .roles => .ok (.ok (.roles (.of actor c.data)))
  | .settings => .ok (.ok (.settings (.of actor c.data)))
  | .audit limit => .ok (.ok (.audit (.of limit c.outbox)))

/-- Opens a page behind its gate. -/
def view (c : Console) (overflow : Overflow) (actor : Actor) (request : PageRequest) :
    Except Abort (Except Refusal (Gated Page)) :=
  match Gate.page actor request.permission fun _ => c.render overflow actor request with
  | .denied d => .ok (.ok (.denied d))
  | .allowed rendered => rendered.map fun outcome => outcome.map .allowed

/-! ## Deliveries -/

/-- The console when nothing is due in its outbox any more. -/
def settle (c : Console) : Console := { c with outbox := c.outbox.settle }

end Console

end AdminConsole
