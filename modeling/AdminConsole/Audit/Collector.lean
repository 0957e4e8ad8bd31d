import AdminConsole.Audit.Delivery
import AdminConsole.Audit.Record
import AdminConsole.Audit.Signature

/-!
# The audit service

The service that collects records takes each as a posted request and answers with a status. Success
ends the delivery. A status that tells of a passing trouble (408, 429 and those from 500 to 599) is
worth another attempt, and so is a service that does not answer; any other status is a refusal.
-/

namespace AdminConsole

/-- One posted record. -/
structure CollectorRequest where
  contentType : String
  idempotencyKey : String
  action : String
  signature : Option String
  body : String
  deriving DecidableEq, Repr

/-- What comes back for a request. -/
inductive CollectorReply
  | status (code : Nat)
  | timeout
  /-- The service cannot be reached, for the reason given. -/
  | unreachable (reason : String)
  deriving DecidableEq, Repr

namespace Collector

/-- The request for a record. -/
def request (secret : Option String) (r : AuditRecord) : CollectorRequest where
  contentType := "application/json"
  idempotencyKey := r.id.text
  action := r.action
  signature := secret.map fun s => Signature.header s (Utf8.encode r.wire)
  body := r.wire

/-- A status of success. -/
def isSuccess (code : Nat) : Bool := 200 ≤ code && code ≤ 299

/-- A status that tells of a passing trouble. -/
def isTransient (code : Nat) : Bool := code == 408 || code == 429 || (500 ≤ code && code ≤ 599)

/-- What a status means for the attempt. -/
def classify (code : Nat) : Except DeliveryError Unit :=
  if isSuccess code then .ok ()
  else if isTransient code then .error (.transport ("HTTP " ++ toString code))
  else .error (.rejected code)

/-- What a reply means for the attempt. -/
def outcome : CollectorReply → Except DeliveryError Unit
  | .status code => classify code
  | .timeout => .error .timeout
  | .unreachable reason => .error (.transport reason)

/-- A request and its reply. -/
structure Exchange where
  request : CollectorRequest
  reply : CollectorReply
  deriving DecidableEq, Repr

/-- The request came to the service. -/
def Exchange.arrived (e : Exchange) : Bool :=
  match e.reply with
  | .unreachable _ => false
  | _ => true

/-- An action that can stand in a header: no control character but the tab. -/
def isHeaderText (s : String) : Bool :=
  s.toList.all fun c => c == '\t' || (0x20 ≤ c.toNat && c.toNat != 0x7f)

/-- One attempt against a service that answers as given, with the exchanges made so far. An action
that cannot stand in a header leads to no exchange. -/
def attempt (secret : Option String) (r : AuditRecord) (reply : CollectorReply) :
    StateM (List Exchange) (Except DeliveryError Unit) := do
  if isHeaderText r.action then
    modify fun made => made ++ [{ request := request secret r, reply := reply }]
    return outcome reply
  else return .error (.transport "builder error")

/-- Delivers a record to a service that answers the attempt of each number as given, and lists the
exchanges. -/
def deliver (p : RetryPolicy) (secret : Option String) (r : AuditRecord)
    (reply : Nat → CollectorReply) : DeliveryRun × List Exchange :=
  (AdminConsole.deliver p r.id fun k => attempt secret r (reply k)).run []

end Collector

end AdminConsole
