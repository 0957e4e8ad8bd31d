import AdminConsole.Access.Reader
import AdminConsole.Action.Apply
import AdminConsole.Http.Form
import AdminConsole.Http.MediaType
import AdminConsole.Http.Message
import AdminConsole.Json.Reader
import AdminConsole.Page.Request
import AdminConsole.Server.Route

/-!
# What a request asks for

The identifier in the path, the query and the body of a request are read here, in this order, and
before anything is asked about permissions. A bad identifier, a bad query and a body outside the
JSON grammar are answered with status 400, a body that is too long with 413, one of another media
type with 415, and one of another shape with 422.
-/

namespace AdminConsole

/-- Why a request is turned away before it reaches the console. -/
inductive Rejection
  | badIdentifier
  | badQuery
  | wrongMediaType
  | oversizedBody
  | brokenBody
  | mismatchedBody
  deriving DecidableEq, Repr

namespace Rejection

/-- The status of the answer. -/
def status : Rejection → Nat
  | badIdentifier | badQuery | brokenBody => 400
  | oversizedBody => 413
  | wrongMediaType => 415
  | mismatchedBody => 422

/-- The rejection for a body that cannot be read. -/
def ofReadFault : Json.ReadFault → Rejection
  | .broken => brokenBody
  | .mismatch => mismatchedBody

end Rejection

namespace Request

/-! ## Bodies -/

/-- The length in bytes up to which a body is read. -/
def longestBody : Nat := 2097152

/-- The body, which must be JSON of the right shape. -/
def requiredBody {α : Type} (reader : Json.Reader α) (r : Request) : Except Rejection α :=
  if MediaType.headersSayJson r.headers then
    if longestBody < r.body.length then .error .oversizedBody
    else match Json.Reader.document reader (Json.Token.ofBytes r.body) with
      | .ok a => .ok a
      | .error fault => .error (.ofReadFault fault)
  else .error .wrongMediaType

/-- The body if the request names a media type; without one there is no body. -/
def optionalBody {α : Type} (reader : Json.Reader α) (r : Request) :
    Except Rejection (Option α) :=
  match r.headers.first? "content-type" with
  | none => .ok none
  | some _ => (r.requiredBody reader).map some

end Request

namespace Body

open Json (Reader)

/-- A record of one text that may be missing. -/
def remark (name : String) : Reader (Option String) :=
  Reader.record [.of name (.optional .text) fun v _ => v] none some

/-- The role asked for at sign-in, by its tag, if any. -/
def signIn : Reader (Option String) := remark "role"

/-- The role to switch to, by its tag. -/
def switchRole : Reader String :=
  Reader.record [.of "role" .text fun v _ => some v] none id

/-- The role to assign. -/
def assignRole : Reader Role :=
  Reader.record [.of "role" Role.reader fun v _ => some v] none id

/-- An update of a member. -/
def memberUpdate : Reader MemberUpdate :=
  Reader.record
    [.of "display_name" (.optional .text) fun v u => { u with displayName := v },
      .of "email" (.optional .text) fun v u => { u with email := v },
      .of "city" (.optional .text) fun v u => { u with city := v }]
    (⟨none, none, none⟩ : MemberUpdate) some

/-- An update of the settings. -/
def settingsUpdate : Reader SettingsUpdate :=
  Reader.record
    [.of "maintenance_mode" (.optional .bool) fun v u => { u with maintenanceMode := v },
      .of "new_signups_enabled" (.optional .bool) fun v u => { u with newSignupsEnabled := v },
      .of "minimum_age" (.optional (.below UInt8.size)) fun v u =>
        { u with minimumAge := v.map UInt8.ofNat },
      .of "max_daily_likes" (.optional (.below UInt32.size)) fun v u =>
        { u with maxDailyLikes := v.map UInt32.ofNat },
      .of "auto_flag_threshold" (.optional (.below UInt32.size)) fun v u =>
        { u with autoFlagThreshold := v.map UInt32.ofNat },
      .of "support_email" (.optional .text) fun v u => { u with supportEmail := v }]
    (⟨none, none, none, none, none, none⟩ : SettingsUpdate) some

end Body

namespace Request

/-- The identifier in a segment of the path. -/
def identifier (segment : String) : Except Rejection Uuid :=
  match (Percent.decode? segment).bind Uuid.parse? with
  | some id => .ok id
  | none => .error .badIdentifier

/-- A field of the query that may be given once. -/
def queryField {α : Type} (r : Request) (name : String) (decode : String → Option α) :
    Except Rejection (Option α) :=
  match Form.optional? r.query name decode with
  | some value => .ok value
  | none => .error .badQuery

/-- The page that a request asks for. -/
def page (r : Request) : PageRoute → Except Rejection PageRequest
  | .overview => .ok .overview
  | .members => do return .members (← r.queryField "status" AccountStatus.ofTag?)
  | .member id => do return .member (← identifier id)
  | .moderation => do return .moderation (← r.queryField "status" ReportStatus.ofTag?)
  | .engagement => .ok .engagement
  | .revenue => .ok .revenue
  | .payments => .ok .payments
  | .ads => .ok .ads
  | .roles => .ok .roles
  | .settings => .ok .settings
  | .audit => do
    return .audit (← r.queryField "limit" fun s => (Numeral.natural Numeral.word64 s).toOption)

/-- The action that a request asks for on the thing with an identifier. -/
def actionOn (r : Request) (id : Uuid) : ActionKind → Except Rejection Action
  | .banMember => do return .banMember id (← r.optionalBody (Body.remark "reason")).join
  | .unbanMember => .ok (.unbanMember id)
  | .verifyMember => .ok (.verifyMember id)
  | .editMember => do return .editMember id (← r.requiredBody Body.memberUpdate)
  | .deleteMember => .ok (.deleteMember id)
  | .resolveReport => do return .resolveReport id (← r.optionalBody (Body.remark "note")).join
  | .dismissReport => do return .dismissReport id (← r.optionalBody (Body.remark "note")).join
  | .removeContent => .ok (.removeContent id)
  | .refundPayment => do return .refundPayment id (← r.optionalBody (Body.remark "reason")).join
  | .pauseCampaign => .ok (.pauseCampaign id)
  | .resumeCampaign => .ok (.resumeCampaign id)
  | .assignRole => do return .assignRole id (← r.requiredBody Body.assignRole)
  | .updateSettings => do return .updateSettings (← r.requiredBody Body.settingsUpdate)

/-- The action that a request asks for on the thing that a segment of the path names. -/
def action (r : Request) (kind : ActionKind) (segment : String) : Except Rejection Action := do
  r.actionOn (← identifier segment) kind

/-- The change of the settings that a request asks for. -/
def settingsChange (r : Request) : Except Rejection Action := do
  return .updateSettings (← r.requiredBody Body.settingsUpdate)

end Request

end AdminConsole
