import AdminConsole.Access.Permission
import AdminConsole.Text.Quoted

/-!
# Roles and what they grant

The grant table is fixed. The owner holds the whole registry; a text that is no role's tag holds
nothing.
-/

namespace AdminConsole

/-- The role of an operator. -/
inductive Role
  | owner
  | admin
  | moderator
  | support
  | adManager
  deriving DecidableEq, Repr

namespace Role

/-- Every role once, in the order of the registry. -/
def all : List Role := [owner, admin, moderator, support, adManager]

/-- The role of an operator about whom nothing is said. -/
def standard : Role := admin

/-- The tag by which the role is written. -/
def tag : Role → String
  | owner => "OWNER"
  | admin => "ADMIN"
  | moderator => "MODERATOR"
  | support => "SUPPORT"
  | adManager => "AD_MANAGER"

/-- The name shown to operators. -/
def label : Role → String
  | owner => "Owner"
  | admin => "Admin"
  | moderator => "Moderator"
  | support => "Support"
  | adManager => "Ad Manager"

/-- The role with a given tag. -/
def ofTag? (s : String) : Option Role := all.find? (·.tag == s)

/-- The text is the tag of some role. -/
def isTag (s : String) : Bool := all.any (·.tag == s)

/-- The permissions of a role, in the order of the grant table. -/
def grants : Role → List Permission
  | owner => Permission.all
  | admin =>
    [.viewDashboard, .viewUsers, .editUsers, .banUsers, .deleteUsers, .verifyUsers,
      .viewModeration, .moderateContent, .resolveReports, .viewAnalytics, .viewRevenue,
      .viewPayments, .refundPayments, .viewAdsMetrics, .manageAds, .viewRoles, .viewSettings,
      .manageSettings, .viewAuditLog]
  | moderator =>
    [.viewDashboard, .viewUsers, .banUsers, .verifyUsers, .viewModeration, .moderateContent,
      .resolveReports]
  | support =>
    [.viewDashboard, .viewUsers, .editUsers, .verifyUsers, .viewModeration, .viewPayments,
      .refundPayments]
  | adManager => [.viewDashboard, .viewAnalytics, .viewRevenue, .viewAdsMetrics, .manageAds]

/-- The permissions of a text taken for a role's tag. -/
def grantsOfTag (s : String) : List Permission :=
  match ofTag? s with
  | some role => role.grants
  | none => []

/-- The role that grants the permission, in the order of the registry. -/
def holders (p : Permission) : List Role := all.filter fun r => decide (p ∈ r.grants)

/-- The role asked for, if it is one, and otherwise the fallback. -/
def resolve (requested : Option String) (fallback : Role) : Role :=
  (requested.bind ofTag?).getD fallback

theorem mem_all (r : Role) : r ∈ all := by cases r <;> decide

end Role

/-- A tag that names nothing in its registry. -/
inductive UnknownTag
  | role (text : String)
  | permission (text : String)
  deriving DecidableEq, Repr

namespace UnknownTag

/-- The wording of the fault, with the text in quotes. -/
def message : UnknownTag → String
  | role s => "Unknown admin role: " ++ Text.quoted s
  | permission s => "Unknown permission: " ++ Text.quoted s

end UnknownTag

/-- Reads the tag of a role. -/
def Role.parse (s : String) : Except UnknownTag Role :=
  match ofTag? s with
  | some r => .ok r
  | none => .error (.role s)

/-- Reads the tag of a permission. -/
def Permission.parse (s : String) : Except UnknownTag Permission :=
  match ofTag? s with
  | some p => .ok p
  | none => .error (.permission s)

end AdminConsole
