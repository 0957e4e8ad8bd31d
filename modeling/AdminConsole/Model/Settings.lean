import AdminConsole.Json.Value

/-!
# Settings

What holds for the whole community.
-/

namespace AdminConsole

/-- The settings of the community. -/
structure Settings where
  maintenanceMode : Bool
  newSignupsEnabled : Bool
  minimumAge : UInt8
  maxDailyLikes : UInt32
  autoFlagThreshold : UInt32
  supportEmail : String
  deriving DecidableEq, Repr

namespace Settings

/-- The settings before anybody changes them. -/
def standard : Settings where
  maintenanceMode := false
  newSignupsEnabled := true
  minimumAge := 18
  maxDailyLikes := 100
  autoFlagThreshold := 3
  supportEmail := "support@heartline.app"

/-- The settings as a value. -/
def toJson (s : Settings) : Json :=
  .obj [("maintenance_mode", .bool s.maintenanceMode),
    ("new_signups_enabled", .bool s.newSignupsEnabled), ("minimum_age", .nat s.minimumAge.toNat),
    ("max_daily_likes", .nat s.maxDailyLikes.toNat),
    ("auto_flag_threshold", .nat s.autoFlagThreshold.toNat),
    ("support_email", .str s.supportEmail)]

end Settings

end AdminConsole
