import AdminConsole.Json.Value
import AdminConsole.Overflow
import AdminConsole.Time.Rfc3339

/-!
# Engagement and revenue

Daily counts of what members do, and monthly sums of what they pay, in cents.
-/

namespace AdminConsole

/-- The counts of one day. -/
structure EngagementDay where
  date : Date
  activeUsers : UInt32
  newSignups : UInt32
  matched : UInt32
  messagesSent : UInt32
  deriving DecidableEq

/-- The day as a value. -/
def EngagementDay.toJson (d : EngagementDay) : Json :=
  .obj [("date", .str d.date.text), ("daily_active_users", .nat d.activeUsers.toNat),
    ("new_signups", .nat d.newSignups.toNat), ("matches", .nat d.matched.toNat),
    ("messages_sent", .nat d.messagesSent.toNat)]

/-- The revenue of one month by source. -/
structure RevenueMonth where
  month : String
  subscriptions : Int64
  boosts : Int64
  ads : Int64
  deriving DecidableEq

namespace RevenueMonth

/-- The sources, in the order in which they are added up. -/
def sources (r : RevenueMonth) : List Int64 := [r.subscriptions, r.boosts, r.ads]

/-- The sum of all sources. -/
def total (overflow : Overflow) (r : RevenueMonth) : Except Abort Int64 := overflow.sum r.sources

/-- The month as a value. -/
def toJson (r : RevenueMonth) : Json :=
  .obj [("month", .str r.month), ("subscriptions_cents", .int r.subscriptions.toInt),
    ("boosts_cents", .int r.boosts.toInt), ("ads_cents", .int r.ads.toInt)]

end RevenueMonth

end AdminConsole
