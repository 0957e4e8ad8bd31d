/-!
# Permissions

What a role may allow: to open one page, or to perform one kind of action. `Permission.all` is the
registry in its fixed order.
-/

namespace AdminConsole

/-- A single thing that a role may allow. -/
inductive Permission
  | viewDashboard
  | viewUsers
  | editUsers
  | banUsers
  | deleteUsers
  | verifyUsers
  | viewModeration
  | moderateContent
  | resolveReports
  | viewAnalytics
  | viewRevenue
  | viewPayments
  | refundPayments
  | viewAdsMetrics
  | manageAds
  | viewRoles
  | manageRoles
  | viewSettings
  | manageSettings
  | viewAuditLog
  deriving DecidableEq, Repr

namespace Permission

/-- Every permission once, in the order of the registry. -/
def all : List Permission :=
  [viewDashboard, viewUsers, editUsers, banUsers, deleteUsers, verifyUsers, viewModeration,
    moderateContent, resolveReports, viewAnalytics, viewRevenue, viewPayments, refundPayments,
    viewAdsMetrics, manageAds, viewRoles, manageRoles, viewSettings, manageSettings, viewAuditLog]

/-- The tag by which the permission is written. -/
def tag : Permission → String
  | viewDashboard => "view_dashboard"
  | viewUsers => "view_users"
  | editUsers => "edit_users"
  | banUsers => "ban_users"
  | deleteUsers => "delete_users"
  | verifyUsers => "verify_users"
  | viewModeration => "view_moderation"
  | moderateContent => "moderate_content"
  | resolveReports => "resolve_reports"
  | viewAnalytics => "view_analytics"
  | viewRevenue => "view_revenue"
  | viewPayments => "view_payments"
  | refundPayments => "refund_payments"
  | viewAdsMetrics => "view_ads_metrics"
  | manageAds => "manage_ads"
  | viewRoles => "view_roles"
  | manageRoles => "manage_roles"
  | viewSettings => "view_settings"
  | manageSettings => "manage_settings"
  | viewAuditLog => "view_audit_log"

/-- The description shown to operators. -/
def description : Permission → String
  | viewDashboard => "View the overview dashboard"
  | viewUsers => "Browse member accounts"
  | editUsers => "Edit member profiles"
  | banUsers => "Ban and unban members"
  | deleteUsers => "Delete member accounts"
  | verifyUsers => "Verify member identities"
  | viewModeration => "View the moderation queue"
  | moderateContent => "Remove reported content"
  | resolveReports => "Resolve or dismiss reports"
  | viewAnalytics => "View engagement analytics"
  | viewRevenue => "View revenue analytics"
  | viewPayments => "View payments"
  | refundPayments => "Refund payments"
  | viewAdsMetrics => "View ad campaign metrics"
  | manageAds => "Pause and resume ad campaigns"
  | viewRoles => "View roles and the admin team"
  | manageRoles => "Assign admin roles"
  | viewSettings => "View console settings"
  | manageSettings => "Change console settings"
  | viewAuditLog => "View the audit log"

/-- The permission with a given tag. -/
def ofTag? (s : String) : Option Permission := all.find? (·.tag == s)

theorem mem_all (p : Permission) : p ∈ all := by cases p <;> decide

end Permission

end AdminConsole
