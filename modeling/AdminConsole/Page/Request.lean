import AdminConsole.Page.Administration
import AdminConsole.Page.Analytics
import AdminConsole.Page.Members
import AdminConsole.Page.Money
import AdminConsole.Page.Overview

/-!
# Pages by request

`PageRequest` names every page that can be opened, with what narrows it, and the permission that it
takes; `Page` is any page as it is shown.
-/

namespace AdminConsole

/-- A page that can be opened. -/
inductive PageRequest
  | overview
  | members (status : Option AccountStatus)
  | member (id : Uuid)
  | moderation (status : Option ReportStatus)
  | engagement
  | revenue
  | payments
  | ads
  | roles
  | settings
  | audit (limit : Option Nat)
  deriving DecidableEq, Repr

/-- The permission that a page takes. -/
def PageRequest.permission : PageRequest → Permission
  | overview => .viewDashboard
  | members _ | member _ => .viewUsers
  | moderation _ => .viewModeration
  | engagement => .viewAnalytics
  | revenue => .viewRevenue
  | payments => .viewPayments
  | ads => .viewAdsMetrics
  | roles => .viewRoles
  | settings => .viewSettings
  | audit _ => .viewAuditLog

/-- A page as it is shown. -/
inductive Page
  | overview (p : OverviewPage)
  | members (p : MembersPage)
  | member (p : MemberPage)
  | moderation (p : ModerationPage)
  | engagement (p : EngagementPage)
  | revenue (p : RevenuePage)
  | payments (p : PaymentsPage)
  | ads (p : AdsPage)
  | roles (p : RolesPage)
  | settings (p : SettingsPage)
  | audit (p : AuditPage)

/-- The page as a value. -/
def Page.toJson : Page → Json
  | overview p => p.toJson
  | members p => p.toJson
  | member p => p.toJson
  | moderation p => p.toJson
  | engagement p => p.toJson
  | revenue p => p.toJson
  | payments p => p.toJson
  | ads p => p.toJson
  | roles p => p.toJson
  | settings p => p.toJson
  | audit p => p.toJson

end AdminConsole
