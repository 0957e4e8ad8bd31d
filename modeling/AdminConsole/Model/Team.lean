import AdminConsole.Access.Role
import AdminConsole.Json.Value
import AdminConsole.Model.Entity
import AdminConsole.Time.Rfc3339

/-!
# The admin team

The operators of the console and their roles.
-/

namespace AdminConsole

/-- An operator of the console. -/
structure TeamMember where
  id : Uuid
  name : String
  email : String
  role : Role
  lastLoginAt : Option Instant
  deriving DecidableEq

namespace TeamMember

instance : Entity TeamMember := ⟨TeamMember.id⟩

/-- The operator as a value. -/
def toJson (t : TeamMember) : Json :=
  .obj [("id", .str t.id.text), ("name", .str t.name), ("email", .str t.email),
    ("role", .str t.role.tag),
    ("last_login_at", .option (fun t => .str t.text) t.lastLoginAt)]

/-- The number of owners in a team. -/
def owners (team : List TeamMember) : Nat := team.countP fun t => t.role == .owner

end TeamMember

end AdminConsole
