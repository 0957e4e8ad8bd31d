import AdminConsole.Action.Edit
import AdminConsole.Model.Member
import AdminConsole.Model.Settings
import AdminConsole.Text.Blank
import AdminConsole.Text.Split

/-!
# Partial updates

An update mentions some fields and leaves the others as they are. It is looked through as a whole
before anything is changed, and one that mentions nothing is refused. Texts are stored without
blanks at either end.
-/

namespace AdminConsole

/-- A text that may be an email address: when trimmed, something stands before the first at sign,
and what follows it has a dot but does not start with one. -/
def isPlausibleEmail (s : String) : Bool :=
  match Text.cut '@' (Text.trimChars s.toList) with
  | some (mailbox, domain) =>
    !mailbox.isEmpty && domain.contains '.' && domain.head? != some '.'
  | none => false

/-! ## Members -/

/-- An update of a member's profile. -/
structure MemberUpdate where
  displayName : Option String
  email : Option String
  city : Option String
  deriving DecidableEq, Repr

namespace MemberUpdate

/-- Nothing is mentioned. -/
def isEmpty (u : MemberUpdate) : Bool :=
  u.displayName.isNone && u.email.isNone && u.city.isNone

/-- A display name has one to fifty characters. -/
def isDisplayName (s : String) : Bool :=
  let n := (Text.trimChars s.toList).length
  1 ≤ n && n ≤ 50

/-- Why the update is refused, if it is. -/
def fault? (u : MemberUpdate) : Option Refusal :=
  if u.isEmpty then some .nothingToUpdate
  else if u.displayName.any fun s => !isDisplayName s then some .badDisplayName
  else if u.email.any fun s => !isPlausibleEmail s then some .badEmail
  else if u.city.any fun s => decide (Text.IsBlankText s) then some .badCity
  else none

/-- Writes the fields that are mentioned. -/
def write (u : MemberUpdate) : Edit Member Unit := do
  Edit.writeSome (u.displayName.map Text.trim) fun s m => { m with displayName := s }
  Edit.writeSome (u.email.map Text.trim) fun s m => { m with email := s }
  Edit.writeSome (u.city.map Text.trim) fun s m => { m with city := s }

end MemberUpdate

/-! ## Settings -/

/-- The key of a setting. -/
inductive SettingsKey
  | maintenanceMode
  | newSignupsEnabled
  | minimumAge
  | maxDailyLikes
  | autoFlagThreshold
  | supportEmail
  deriving DecidableEq, Repr

namespace SettingsKey

/-- Every key in order. -/
def all : List SettingsKey :=
  [maintenanceMode, newSignupsEnabled, minimumAge, maxDailyLikes, autoFlagThreshold, supportEmail]

/-- The name of the key. -/
def name : SettingsKey → String
  | maintenanceMode => "maintenance_mode"
  | newSignupsEnabled => "new_signups_enabled"
  | minimumAge => "minimum_age"
  | maxDailyLikes => "max_daily_likes"
  | autoFlagThreshold => "auto_flag_threshold"
  | supportEmail => "support_email"

end SettingsKey

/-- An update of the settings. -/
structure SettingsUpdate where
  maintenanceMode : Option Bool
  newSignupsEnabled : Option Bool
  minimumAge : Option UInt8
  maxDailyLikes : Option UInt32
  autoFlagThreshold : Option UInt32
  supportEmail : Option String
  deriving DecidableEq, Repr

namespace SettingsUpdate

/-- An age that may be the lowest one. -/
def isMinimumAge (age : UInt8) : Bool := 18 ≤ age && age ≤ 99

/-- Why a value is refused, if one is. -/
def fault? (u : SettingsUpdate) : Option Refusal :=
  if u.minimumAge.any fun age => !isMinimumAge age then some .badMinimumAge
  else if u.maxDailyLikes = some 0 then some .badDailyLikes
  else if u.autoFlagThreshold = some 0 then some .badFlagThreshold
  else if u.supportEmail.any fun s => !isPlausibleEmail s then some .badSupportEmail
  else none

/-- Writes the setting of a key if it is mentioned, and lists the key then. -/
def writeKey {α : Type} (key : SettingsKey) (value : Option α) (put : α → Settings → Settings) :
    Edit Settings (List SettingsKey) := do
  Edit.writeSome value put
  return if value.isSome then [key] else []

/-- Writes the settings that are mentioned, and lists their keys. That nothing is mentioned is
noticed last. -/
def write (u : SettingsUpdate) : Edit Settings (List SettingsKey) := do
  Edit.refuseIf? u.fault?
  let k₁ ← writeKey .maintenanceMode u.maintenanceMode fun v s => { s with maintenanceMode := v }
  let k₂ ← writeKey .newSignupsEnabled u.newSignupsEnabled fun v s =>
    { s with newSignupsEnabled := v }
  let k₃ ← writeKey .minimumAge u.minimumAge fun v s => { s with minimumAge := v }
  let k₄ ← writeKey .maxDailyLikes u.maxDailyLikes fun v s => { s with maxDailyLikes := v }
  let k₅ ← writeKey .autoFlagThreshold u.autoFlagThreshold fun v s =>
    { s with autoFlagThreshold := v }
  let k₆ ← writeKey .supportEmail (u.supportEmail.map Text.trim) fun v s =>
    { s with supportEmail := v }
  let changed := k₁ ++ k₂ ++ k₃ ++ k₄ ++ k₅ ++ k₆
  if changed.isEmpty then throw Refusal.nothingToUpdate
  return changed

end SettingsUpdate

end AdminConsole
