import AdminConsole.Access.Actor
import AdminConsole.Access.Reader
import AdminConsole.Audit.Origin
import AdminConsole.Json.Reader
import AdminConsole.Json.Writer
import AdminConsole.Time.Rfc3339

/-!
# Audit records

One record for each action performed: who did what to what, from where, and when. On the wire a
record is a JSON object whose time stamp has milliseconds; its target is left out when there is
none. The record's identifier also tells the receiving service a repeated copy from a new record.
-/

namespace AdminConsole

/-- The record of one action. -/
structure AuditRecord where
  id : Uuid
  action : String
  actor : Actor
  target : Option String
  ip : String
  device : String
  timestamp : Instant
  deriving DecidableEq

namespace AuditRecord

/-! ## Writing -/

/-- The record as a value, with its fields in the order of the wire. -/
def toJson (r : AuditRecord) : Json :=
  .obj ([("id", .str r.id.text), ("action", .str r.action), ("actor", r.actor.toJson)] ++
    Json.optionalField "target" r.target ++
    [("ip", .str r.ip), ("device", .str r.device), ("timestamp", .str r.timestamp.textMillis)])

/-- The record as it goes over the wire. -/
def wire (r : AuditRecord) : String := r.toJson.render

/-! ## Reading -/

/-- The parts of an actor met so far. -/
structure ActorDraft where
  id : Option Uuid
  role : Option Role

/-- Reads an actor. -/
def actorReader : Json.Reader Actor :=
  Json.Reader.record
    [.of "id" (.decoded Uuid.parse?) fun v d => { d with id := some v },
      .of "role" Role.reader fun v d => { d with role := some v }]
    (⟨none, none⟩ : ActorDraft)
    fun d => do return { id := ← d.id, role := ← d.role }

/-- The parts of a record met so far. -/
structure Draft where
  id : Option Uuid
  action : Option String
  actor : Option Actor
  target : Option String
  ip : Option String
  device : Option String
  timestamp : Option Instant

/-- Reads a record; the target may be missing or null, and nothing else may. -/
def reader : Json.Reader AuditRecord :=
  Json.Reader.record
    [.of "id" (.decoded Uuid.parse?) fun v d => { d with id := some v },
      .of "action" .text fun v d => { d with action := some v },
      .of "actor" actorReader fun v d => { d with actor := some v },
      .of "target" (.optional .text) fun v d => { d with target := v },
      .of "ip" .text fun v d => { d with ip := some v },
      .of "device" .text fun v d => { d with device := some v },
      .of "timestamp" (.decoded Instant.parse?) fun v d => { d with timestamp := some v }]
    (⟨none, none, none, none, none, none, none⟩ : Draft)
    fun d => do return {
      id := ← d.id, action := ← d.action, actor := ← d.actor, target := d.target, ip := ← d.ip
      device := ← d.device, timestamp := ← d.timestamp }

/-- The record that a text on the wire denotes. -/
def ofWire (s : String) : Except Json.ReadFault AuditRecord :=
  Json.Reader.document reader (Json.Token.ofText s)

end AuditRecord

end AdminConsole
