import AdminConsole.Audit.Outbox
import AdminConsole.Model.Data
import AdminConsole.Page.Control

/-!
# Pages about the console itself

The roles with what they grant and the team that holds them, the settings, and the newest entries
of the journal.
-/

namespace AdminConsole

/-- The registry of roles and permissions, and the team. -/
structure RolesPage where
  team : List TeamMember
  controls : List Control
  deriving DecidableEq

namespace RolesPage

/-- The page of the team of the data. -/
def of (actor : Actor) (d : Data) : RolesPage where
  team := d.team
  controls := AdminConsole.controls actor Button.ofRoles

/-- A role and what it grants. -/
def roleJson (r : Role) : Json :=
  .obj [("role", .str r.tag), ("label", .str r.label),
    ("permissions", .list (fun p => .str p.tag) r.grants)]

/-- A permission and its description. -/
def permissionJson (p : Permission) : Json :=
  .obj [("permission", .str p.tag), ("description", .str p.description)]

/-- The page as a value. -/
def toJson (p : RolesPage) : Json :=
  .obj [("roles", .list roleJson Role.all), ("permissions", .list permissionJson Permission.all),
    ("team", .list TeamMember.toJson p.team), ("controls", .list Control.toJson p.controls)]

end RolesPage

/-- The settings. -/
structure SettingsPage where
  settings : Settings
  controls : List Control
  deriving DecidableEq

namespace SettingsPage

/-- The page of the settings of the data. -/
def of (actor : Actor) (d : Data) : SettingsPage where
  settings := d.settings
  controls := AdminConsole.controls actor Button.ofSettings

/-- The page as a value. -/
def toJson (p : SettingsPage) : Json :=
  .obj [("settings", p.settings.toJson), ("controls", .list Control.toJson p.controls)]

end SettingsPage

/-- The newest entries of the journal, and where records go. -/
structure AuditPage where
  entries : List JournalEntry
  transport : String
  deriving DecidableEq

namespace AuditPage

/-- The number of entries shown where none is asked for. -/
def standardLimit : Nat := 50

/-- The greatest number of entries shown. -/
def greatestLimit : Nat := 500

/-- The number of entries shown for one that is asked for. -/
def limit (asked : Option Nat) : Nat := min greatestLimit (max 1 (asked.getD standardLimit))

/-- The page of the journal of an outbox. -/
def of (asked : Option Nat) (o : Outbox) : AuditPage where
  entries := o.journal.recent (limit asked)
  transport := o.channel.name

/-- The page as a value. -/
def toJson (p : AuditPage) : Json :=
  .obj [("entries", .list JournalEntry.toJson p.entries), ("transport", .str p.transport)]

end AuditPage

end AdminConsole
