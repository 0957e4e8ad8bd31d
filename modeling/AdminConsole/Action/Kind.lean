import AdminConsole.Access.Permission

/-!
# Kinds of actions

The thirteen things that can be done to the data, each with the name under which it is recorded
and the permission that it takes.
-/

namespace AdminConsole

/-- A kind of action. -/
inductive ActionKind
  | banMember
  | unbanMember
  | verifyMember
  | editMember
  | deleteMember
  | resolveReport
  | dismissReport
  | removeContent
  | refundPayment
  | pauseCampaign
  | resumeCampaign
  | assignRole
  | updateSettings
  deriving DecidableEq, Repr

namespace ActionKind

/-- Every kind once. -/
def all : List ActionKind :=
  [banMember, unbanMember, verifyMember, editMember, deleteMember, resolveReport, dismissReport,
    removeContent, refundPayment, pauseCampaign, resumeCampaign, assignRole, updateSettings]

/-- The name under which the action is recorded. -/
def name : ActionKind → String
  | banMember => "users.ban"
  | unbanMember => "users.unban"
  | verifyMember => "users.verify"
  | editMember => "users.edit"
  | deleteMember => "users.delete"
  | resolveReport => "reports.resolve"
  | dismissReport => "reports.dismiss"
  | removeContent => "reports.remove_content"
  | refundPayment => "payments.refund"
  | pauseCampaign => "ads.pause"
  | resumeCampaign => "ads.resume"
  | assignRole => "roles.assign"
  | updateSettings => "settings.update"

/-- The permission that the action takes. -/
def permission : ActionKind → Permission
  | banMember | unbanMember => .banUsers
  | verifyMember => .verifyUsers
  | editMember => .editUsers
  | deleteMember => .deleteUsers
  | resolveReport | dismissReport => .resolveReports
  | removeContent => .moderateContent
  | refundPayment => .refundPayments
  | pauseCampaign | resumeCampaign => .manageAds
  | assignRole => .manageRoles
  | updateSettings => .manageSettings

end ActionKind

end AdminConsole
