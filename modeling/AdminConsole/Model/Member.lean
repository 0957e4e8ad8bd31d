import AdminConsole.Json.Value
import AdminConsole.Model.Entity
import AdminConsole.Time.Rfc3339

/-!
# Members

The accounts of the community. An account is active or banned, and a banned one may say why.
-/

namespace AdminConsole

/-- The state of an account. -/
inductive AccountStatus
  | active
  | banned
  deriving DecidableEq, Repr

namespace AccountStatus

/-- Both states. -/
def all : List AccountStatus := [active, banned]

/-- The tag by which the state is written. -/
def tag : AccountStatus → String
  | active => "active"
  | banned => "banned"

/-- The state with a given tag. -/
def ofTag? (s : String) : Option AccountStatus := all.find? (·.tag == s)

end AccountStatus

/-- A member of the community. -/
structure Member where
  id : Uuid
  displayName : String
  email : String
  age : UInt8
  city : String
  status : AccountStatus
  verified : Bool
  premium : Bool
  reportsReceived : UInt32
  banReason : Option String
  joinedAt : Instant
  lastActiveAt : Instant
  deriving DecidableEq

namespace Member

instance : Entity Member := ⟨Member.id⟩

/-- The member as a value. -/
def toJson (m : Member) : Json :=
  .obj [("id", .str m.id.text), ("display_name", .str m.displayName), ("email", .str m.email),
    ("age", .nat m.age.toNat), ("city", .str m.city), ("status", .str m.status.tag),
    ("verified", .bool m.verified), ("premium", .bool m.premium),
    ("reports_received", .nat m.reportsReceived.toNat),
    ("ban_reason", .option .str m.banReason), ("joined_at", .str m.joinedAt.text),
    ("last_active_at", .str m.lastActiveAt.text)]

end Member

end AdminConsole
