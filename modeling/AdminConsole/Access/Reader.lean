import AdminConsole.Access.Role
import AdminConsole.Json.Reader
import AdminConsole.Text.Casing

/-!
# Roles and permissions in JSON texts

A JSON text names a role by its name in capitals, and a permission by its name in small letters,
with underscores between the words. These spellings come from the names alone: the table of tags
has no part in them.
-/

namespace AdminConsole

namespace Role

/-- The name of the role, its words run together. -/
def name : Role → String
  | owner => "Owner"
  | admin => "Admin"
  | moderator => "Moderator"
  | support => "Support"
  | adManager => "AdManager"

/-- The spelling of the role in a JSON text. -/
def jsonName (r : Role) : String := Text.screamingSnakeCase r.name

/-- The role with a given spelling. -/
def ofJsonName? (s : String) : Option Role := all.find? (·.jsonName == s)

/-- Reads a role. -/
def reader : Json.Reader Role := Json.Reader.tag ofJsonName?

/-- The role that a JSON text denotes. -/
def ofJson (text : String) : Except Json.ReadFault Role :=
  Json.Reader.document reader (Json.Token.ofText text)

end Role

namespace Permission

/-- The name of the permission, its words run together. -/
def name : Permission → String
  | viewDashboard => "ViewDashboard"
  | viewUsers => "ViewUsers"
  | editUsers => "EditUsers"
  | banUsers => "BanUsers"
  | deleteUsers => "DeleteUsers"
  | verifyUsers => "VerifyUsers"
  | viewModeration => "ViewModeration"
  | moderateContent => "ModerateContent"
  | resolveReports => "ResolveReports"
  | viewAnalytics => "ViewAnalytics"
  | viewRevenue => "ViewRevenue"
  | viewPayments => "ViewPayments"
  | refundPayments => "RefundPayments"
  | viewAdsMetrics => "ViewAdsMetrics"
  | manageAds => "ManageAds"
  | viewRoles => "ViewRoles"
  | manageRoles => "ManageRoles"
  | viewSettings => "ViewSettings"
  | manageSettings => "ManageSettings"
  | viewAuditLog => "ViewAuditLog"

/-- The spelling of the permission in a JSON text. -/
def jsonName (p : Permission) : String := Text.snakeCase p.name

/-- The permission with a given spelling. -/
def ofJsonName? (s : String) : Option Permission := all.find? (·.jsonName == s)

/-- Reads a permission. -/
def reader : Json.Reader Permission := Json.Reader.tag ofJsonName?

/-- The permission that a JSON text denotes. -/
def ofJson (text : String) : Except Json.ReadFault Permission :=
  Json.Reader.document reader (Json.Token.ofText text)

end Permission

end AdminConsole
