import AdminConsole.Model.Data

/-!
# Pages of figures over time

Engagement by day with its sums, in words of 64 bits, and the mean number of active users, cut to a
whole number that is shown in 32 bits; and revenue by month with its sum and the growth of the
latest month over the one before it, in per cent, where that one brought anything. A page is there
unless the program stops at one of its sums.
-/

namespace AdminConsole

/-- Engagement by day. -/
structure EngagementPage where
  series : List EngagementDay
  averageActiveUsers : UInt32
  totalNewSignups : UInt64
  totalMatched : UInt64
  totalMessages : UInt64
  deriving DecidableEq

namespace EngagementPage

/-- The sum of a count over some days, added up in a word of 64 bits from the first day on. -/
def sumOf (overflow : Overflow) (count : EngagementDay → UInt32) (days : List EngagementDay) :
    Except Abort UInt64 :=
  overflow.sum (days.map fun day => (count day).toUInt64)

/-- The number of days among which a sum is shared out: one if there are none. -/
def sharers (days : List EngagementDay) : UInt64 := UInt64.ofNat (max days.length 1)

/-- The mean count of active users, cut to a whole number; of no days it is zero. -/
def meanActiveUsers (overflow : Overflow) (days : List EngagementDay) : Except Abort UInt64 :=
  (sumOf overflow (·.activeUsers) days).map fun sum => sum / sharers days

/-- The greatest mean that is shown. -/
def greatestMean : UInt32 := UInt32.ofNat (UInt32.size - 1)

/-- The mean as it is shown: one that does not fit into 32 bits as the greatest that does. -/
def shownMean (mean : UInt64) : UInt32 :=
  if mean ≤ greatestMean.toUInt64 then mean.toUInt32 else greatestMean

/-- The page of the days of the data. -/
def of (overflow : Overflow) (d : Data) : Except Abort EngagementPage := do
  let mean ← meanActiveUsers overflow d.engagement
  let newSignups ← sumOf overflow (·.newSignups) d.engagement
  let matched ← sumOf overflow (·.matched) d.engagement
  let messages ← sumOf overflow (·.messagesSent) d.engagement
  return {
    series := d.engagement
    averageActiveUsers := shownMean mean
    totalNewSignups := newSignups
    totalMatched := matched
    totalMessages := messages }

/-- The page as a value. -/
def toJson (p : EngagementPage) : Json :=
  .obj [("series", .list EngagementDay.toJson p.series),
    ("average_daily_active_users", .nat p.averageActiveUsers.toNat),
    ("total_new_signups", .nat p.totalNewSignups.toNat),
    ("total_matches", .nat p.totalMatched.toNat),
    ("total_messages", .nat p.totalMessages.toNat)]

end EngagementPage

/-- Revenue by month. -/
structure RevenuePage where
  months : List RevenueMonth
  total : Int64
  latestGrowth : Option Float

namespace RevenuePage

/-- The growth from one month to the next, in per cent, if the one before is positive. -/
def growth (overflow : Overflow) (previous latest : RevenueMonth) :
    Except Abort (Option Float) := do
  let before ← previous.total overflow
  if 0 < before then
    let gain ← overflow.sub (← latest.total overflow) before
    return some (gain.toFloat / before.toFloat * 100.0)
  else
    return none

/-- The growth of the last month over the one before it. -/
def latestGrowth? (overflow : Overflow) (months : List RevenueMonth) :
    Except Abort (Option Float) :=
  match months.reverse with
  | latest :: previous :: _ => growth overflow previous latest
  | _ => .ok none

/-- The page of the months of the data. -/
def of (overflow : Overflow) (d : Data) : Except Abort RevenuePage := do
  let growth ← latestGrowth? overflow d.revenue
  let totals ← d.revenue.mapM (RevenueMonth.total overflow)
  let total ← overflow.sum totals
  return { months := d.revenue, total := total, latestGrowth := growth }

/-- The page as a value. -/
def toJson (p : RevenuePage) : Json :=
  .obj [("months", .list RevenueMonth.toJson p.months), ("total_cents", .int p.total.toInt),
    ("latest_growth_percent", .option .ofFloat p.latestGrowth)]

end RevenuePage

end AdminConsole
