import AdminConsole.Access.Role
import AdminConsole.Audit.Delivery
import AdminConsole.Text.Blank
import AdminConsole.Text.Numeral
import AdminConsole.Text.Split
import AdminConsole.Text.Utf8

/-!
# Configuration from the environment

Nine variables set the program up, each with a default. A variable whose bytes are no text counts
as unset. Only two faults are refused: a malformed list of retry delays, and an attempt limit of
zero; of both, the first is reported. Everything else that cannot be read falls back to its
default.
-/

namespace AdminConsole

/-- A variable of the environment. -/
inductive Variable
  | bindAddress
  | trustProxy
  | defaultRole
  | sessionTtl
  | auditEndpoint
  | auditSecret
  | auditTimeout
  | auditAttempts
  | auditDelays
  deriving DecidableEq, Repr

namespace Variable

/-- The name of the variable. -/
def name : Variable → String
  | bindAddress => "BIND_ADDRESS"
  | trustProxy => "TRUST_PROXY"
  | defaultRole => "DEFAULT_ROLE"
  | sessionTtl => "SESSION_TTL_SECS"
  | auditEndpoint => "AUDIT_ENDPOINT"
  | auditSecret => "AUDIT_SIGNING_SECRET"
  | auditTimeout => "AUDIT_TIMEOUT_SECS"
  | auditAttempts => "AUDIT_MAX_ATTEMPTS"
  | auditDelays => "AUDIT_RETRY_DELAYS_SECS"

end Variable

/-- The bytes of each variable that is set. -/
abbrev Environment := Variable → Option (List UInt8)

/-- The text of a variable that is set and readable. -/
def Environment.text (env : Environment) (v : Variable) : Option String :=
  (env v).bind Utf8.decode?

/-- The settings of the audit channel. Times are in seconds. -/
structure AuditConfig where
  endpoint : Option String
  signingSecret : Option String
  timeout : Nat
  retry : RetryPolicy
  deriving DecidableEq, Repr

namespace AuditConfig

/-- The name of the channel: records are posted where there is an endpoint, and only logged where
there is none. -/
def transportName (c : AuditConfig) : String :=
  if c.endpoint.isSome then "http" else "log"

end AuditConfig

/-- A one-line description of an audit channel. -/
def describeAuditChannel (transport : String) (maxAttempts : Nat) : String :=
  "AuditLog \x7b transport: " ++ Text.quoted transport ++ ", max_attempts: " ++
    toString maxAttempts ++ ", .. \x7d"

/-- The settings of the program. Times are in seconds. -/
structure Config where
  bindAddress : String
  trustProxy : Bool
  defaultRole : Role
  sessionTtl : Int
  audit : AuditConfig
  deriving DecidableEq, Repr

/-- Why an environment is refused. -/
inductive ConfigError
  | badDelay (piece : String) (fault : NumeralFault)
  | noAttempts
  deriving DecidableEq, Repr

namespace ConfigError

/-- The wording of the fault. -/
def message : ConfigError → String
  | badDelay piece fault =>
    "AUDIT_RETRY_DELAYS_SECS must be a comma-separated list of seconds: invalid delay " ++
      Text.quoted piece ++ ": " ++ fault.message
  | noAttempts => "AUDIT_MAX_ATTEMPTS must be at least 1"

end ConfigError

namespace Config

/-- The pieces of a list of delays: trimmed, and without the blank ones. -/
def delayPieces (s : String) : List String :=
  ((Text.pieces ',' s.toList).map fun piece => String.ofList (Text.trimChars piece)).filter (· ≠ "")

/-- One piece of a list of delays. -/
def delay (piece : String) : Except ConfigError Nat :=
  match Numeral.natural Numeral.word64 piece with
  | .ok n => .ok n
  | .error fault => .error (.badDelay piece fault)

/-- A list of delays; the first bad piece is reported. -/
def delays (s : String) : Except ConfigError (List Nat) := (delayPieces s).mapM delay

/-- The delays when none are given. -/
def standardDelays : List Nat := [1, 5, 30, 120, 600]

/-- A text that stands for yes. -/
def isYes (s : String) : Bool := s == "true" || s == "1"

/-- The configuration that an environment describes. -/
def ofEnvironment (env : Environment) : Except ConfigError Config := do
  let delays ← match env.text .auditDelays with
    | some s => delays s
    | none => .ok standardDelays
  let attempts := ((env.text .auditAttempts).bind fun s =>
    (Numeral.natural Numeral.word32 s).toOption).getD 5
  if attempts = 0 then .error .noAttempts
  else .ok {
    bindAddress := (env.text .bindAddress).getD "0.0.0.0:8080"
    trustProxy := (env.text .trustProxy).any isYes
    defaultRole := ((env.text .defaultRole).bind Role.ofTag?).getD Role.standard
    sessionTtl := ((env.text .sessionTtl).bind fun s =>
      (Numeral.integer Numeral.signed64 s).toOption).getD 28800
    audit := {
      endpoint := (env.text .auditEndpoint).filter (· ≠ "")
      signingSecret := (env.text .auditSecret).filter (· ≠ "")
      timeout := ((env.text .auditTimeout).bind fun s =>
        (Numeral.natural Numeral.word64 s).toOption).getD 10
      retry := { maxAttempts := attempts, delays := delays } } }

end Config

end AdminConsole
