/-!
# Why a record is not delivered

Failures of single attempts, of whole deliveries and of the delivery's own task. Only those that
may pass by themselves are worth another attempt.
-/

namespace AdminConsole

/-- What went wrong with a delivery. -/
inductive DeliveryError
  /-- The network or the receiving server failed. -/
  | transport (text : String)
  /-- The attempt took too long. -/
  | timeout
  /-- The receiving service refused the record. -/
  | rejected (status : Nat)
  /-- The record could not be encoded. -/
  | encode (text : String)
  /-- The channel cannot be built as configured. -/
  | config (text : String)
  /-- The delivery was given up. -/
  | exhausted (attempts : Nat) (lastError : String)
  /-- The delivery died before it reported. -/
  | task (text : String)
  deriving DecidableEq, Repr

namespace DeliveryError

/-- The wording of the failure. -/
def message : DeliveryError → String
  | transport text => "Audit transport failed: " ++ text
  | timeout => "Audit delivery timed out"
  | rejected status => "Audit service rejected record with HTTP " ++ toString status
  | encode text => "Failed to encode audit record: " ++ text
  | config text => "Invalid audit configuration: " ++ text
  | exhausted attempts lastError =>
    "Audit delivery gave up after " ++ toString attempts ++ " attempts: " ++ lastError
  | task text => "Audit delivery task failed: " ++ text

/-- Another attempt could succeed. -/
def isRetryable : DeliveryError → Bool
  | transport _ | timeout => true
  | _ => false

/-- The name of the kind of failure. -/
def kind : DeliveryError → String
  | transport _ => "transport"
  | timeout => "timeout"
  | rejected _ => "rejected"
  | encode _ => "encode"
  | config _ => "config"
  | exhausted _ _ => "exhausted"
  | task _ => "task"

end DeliveryError

end AdminConsole
