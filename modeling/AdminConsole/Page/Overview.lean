import AdminConsole.Access.Actor
import AdminConsole.Model.Data

/-!
# The overview

Headline numbers. Figures from other pages are shown only to an actor who could open these, and
only then computed.
-/

namespace AdminConsole

/-- Headline numbers. -/
structure OverviewPage where
  totalMembers : Nat
  activeMembers : Nat
  bannedMembers : Nat
  verifiedMembers : Nat
  premiumMembers : Nat
  openReports : Nat
  dailyActiveUsers : Option UInt32
  revenueLastMonth : Option Int64
  deriving DecidableEq

namespace OverviewPage

/-- The number of members in a state. -/
def countIn (status : AccountStatus) (ms : List Member) : Nat :=
  ms.countP fun m => m.status == status

/-- The month of revenue that an actor sees. -/
def lastMonth? (actor : Actor) (d : Data) : Option RevenueMonth :=
  if actor.can .viewRevenue then d.revenue.getLast? else none

/-- The overview that an actor sees beside some revenue. -/
def beside (revenue : Option Int64) (actor : Actor) (d : Data) : OverviewPage where
  totalMembers := d.members.length
  activeMembers := countIn .active d.members
  bannedMembers := countIn .banned d.members
  verifiedMembers := d.members.countP (·.verified)
  premiumMembers := d.members.countP (·.premium)
  openReports := d.reports.countP (·.isOpen)
  dailyActiveUsers :=
    if actor.can .viewAnalytics then d.engagement.getLast?.map (·.activeUsers) else none
  revenueLastMonth := revenue

/-- The overview that an actor sees. -/
def of (overflow : Overflow) (actor : Actor) (d : Data) : Except Abort OverviewPage := do
  let revenue ← (lastMonth? actor d).mapM (RevenueMonth.total overflow)
  return beside revenue actor d

/-- The page as a value. -/
def toJson (p : OverviewPage) : Json :=
  .obj [("total_members", .nat p.totalMembers), ("active_members", .nat p.activeMembers),
    ("banned_members", .nat p.bannedMembers), ("verified_members", .nat p.verifiedMembers),
    ("premium_members", .nat p.premiumMembers), ("open_reports", .nat p.openReports),
    ("daily_active_users", .option (fun n => .nat n.toNat) p.dailyActiveUsers),
    ("revenue_last_month_cents", .option (fun n => .int n.toInt) p.revenueLastMonth)]

end OverviewPage

end AdminConsole
