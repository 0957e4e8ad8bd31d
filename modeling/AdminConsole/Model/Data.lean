import AdminConsole.Model.Analytics
import AdminConsole.Model.Campaign
import AdminConsole.Model.Member
import AdminConsole.Model.Payment
import AdminConsole.Model.Report
import AdminConsole.Model.Settings
import AdminConsole.Model.Team

/-!
# The data of the console

Everything that the console shows, in sections. Engagement and revenue are only shown; the other
sections can be acted on.
-/

namespace AdminConsole

/-- The sections of the console. -/
structure Data where
  members : List Member
  reports : List Report
  payments : List Payment
  campaigns : List Campaign
  team : List TeamMember
  settings : Settings
  engagement : List EngagementDay
  revenue : List RevenueMonth
  deriving DecidableEq

/-- The name of a section. -/
inductive Section
  | members
  | reports
  | payments
  | campaigns
  | team
  | settings
  | engagement
  | revenue
  /-- The sum of each month of revenue. -/
  | totals
  deriving DecidableEq, Repr

/-- Every section. -/
def Section.all : List Section :=
  [members, reports, payments, campaigns, team, settings, engagement, revenue, totals]

/-- The tag by which the section is named. -/
def Section.tag : Section → String
  | members => "members"
  | reports => "reports"
  | payments => "payments"
  | campaigns => "campaigns"
  | team => "team"
  | settings => "settings"
  | engagement => "engagement"
  | revenue => "revenue"
  | totals => "totals"

/-- The section with a given tag. -/
def Section.ofTag? (s : String) : Option Section := all.find? (·.tag == s)

/-- A section as a value. -/
def Data.toJson (overflow : Overflow) (d : Data) : Section → Except Abort Json
  | .members => .ok (.list Member.toJson d.members)
  | .reports => .ok (.list Report.toJson d.reports)
  | .payments => .ok (.list Payment.toJson d.payments)
  | .campaigns => .ok (.list Campaign.toJson d.campaigns)
  | .team => .ok (.list TeamMember.toJson d.team)
  | .settings => .ok d.settings.toJson
  | .engagement => .ok (.list EngagementDay.toJson d.engagement)
  | .revenue => .ok (.list RevenueMonth.toJson d.revenue)
  | .totals =>
    (d.revenue.mapM (RevenueMonth.total overflow)).map (.list fun total => .int total.toInt)

end AdminConsole
