import AdminConsole.Access.Gate
import AdminConsole.Action.Kind

/-!
# Controls on pages

Each button on a page stands for a kind of action and shows whether the actor may use it. A button
that may not be used is shown all the same. What a button takes is said here once more, button by
button; the gate of the action does not read it.
-/

namespace AdminConsole

/-- A button on a page: the kind of action behind it, and the permission that it is shown with. -/
structure Button where
  kind : ActionKind
  permission : Permission
  deriving DecidableEq, Repr

namespace Button

/-- The buttons on pages about members. -/
def ofMembers : List Button :=
  [⟨.banMember, .banUsers⟩, ⟨.unbanMember, .banUsers⟩, ⟨.verifyMember, .verifyUsers⟩,
    ⟨.editMember, .editUsers⟩, ⟨.deleteMember, .deleteUsers⟩]

/-- The buttons on the page of reports. -/
def ofReports : List Button :=
  [⟨.resolveReport, .resolveReports⟩, ⟨.dismissReport, .resolveReports⟩,
    ⟨.removeContent, .moderateContent⟩, ⟨.banMember, .banUsers⟩]

/-- The buttons on the page of payments. -/
def ofPayments : List Button := [⟨.refundPayment, .refundPayments⟩]

/-- The buttons on the page of campaigns. -/
def ofCampaigns : List Button := [⟨.pauseCampaign, .manageAds⟩, ⟨.resumeCampaign, .manageAds⟩]

/-- The buttons on the page of roles. -/
def ofRoles : List Button := [⟨.assignRole, .manageRoles⟩]

/-- The buttons on the page of settings. -/
def ofSettings : List Button := [⟨.updateSettings, .manageSettings⟩]

/-- The button as the actor sees it. -/
def control (actor : Actor) (b : Button) : Control := Control.of actor b.kind.name b.permission

end Button

/-- Some buttons as the actor sees them. -/
def controls (actor : Actor) (buttons : List Button) : List Control :=
  buttons.map (Button.control actor)

/-- The button as a value. -/
def Control.toJson (c : Control) : Json :=
  .obj [("action", .str c.action), ("permission", .str c.permission.tag),
    ("enabled", .bool c.enabled)]

end AdminConsole
