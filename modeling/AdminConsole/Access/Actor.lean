import AdminConsole.Abort
import AdminConsole.Access.Role
import AdminConsole.Json.Value
import AdminConsole.Uuid

/-!
# Actors

Who does something, and in which role. An actor can do what the role grants. A request carries its
actor only if a session stands behind it; asking another request for one is a fault of the program.
-/

namespace AdminConsole

/-- An operator acting in a role. -/
structure Actor where
  id : Uuid
  role : Role
  deriving DecidableEq, Repr

namespace Actor

/-- The actor's role grants the permission. -/
def can (a : Actor) (p : Permission) : Bool := decide (p ∈ a.role.grants)

/-- The actor's permissions in the order of the registry. -/
def permissions (a : Actor) : List Permission := Permission.all.filter a.can

/-- The actor as a value. -/
def toJson (a : Actor) : Json := .obj [("id", .str a.id.text), ("role", .str a.role.tag)]

/-- The actor that a request carries. -/
def ofRequest (carried : Option Actor) : Except Abort Actor :=
  match carried with
  | some a => .ok a
  | none => .error .noActor

end Actor

end AdminConsole
