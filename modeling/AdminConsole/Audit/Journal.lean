import AdminConsole.Audit.Delivery
import AdminConsole.Audit.Record

/-!
# The journal of recent records

The newest records in the order in which they were submitted, each with the state of its delivery.
A full journal loses its oldest entry to a new one. A delivery that ends marks the newest entry
with its record's identifier, and nothing if that entry is gone.
-/

namespace AdminConsole

/-- The state of a record's delivery. -/
inductive DeliveryStatus
  | pending
  | delivered (attempts : Nat)
  | deadLettered (attempts : Nat) (error : String)
  deriving DecidableEq, Repr

namespace DeliveryStatus

/-- The state that a finished delivery leaves behind. -/
def ofResult : DeliveryResult → DeliveryStatus
  | .ok receipt => delivered receipt.attempts
  | .error e =>
    match e with
    | .exhausted attempts _ => deadLettered attempts e.message
    | _ => deadLettered 0 e.message

/-- The delivery was given up. -/
def isDeadLettered : DeliveryStatus → Bool
  | deadLettered _ _ => true
  | _ => false

/-- The state as a value. -/
def toJson : DeliveryStatus → Json
  | pending => .obj [("state", .str "pending")]
  | delivered attempts => .obj [("state", .str "delivered"), ("attempts", .nat attempts)]
  | deadLettered attempts error =>
    .obj [("state", .str "dead_lettered"), ("attempts", .nat attempts), ("error", .str error)]

end DeliveryStatus

/-- A record and the state of its delivery. -/
structure JournalEntry where
  record : AuditRecord
  status : DeliveryStatus
  deriving DecidableEq

/-- The entry as a value. -/
def JournalEntry.toJson (e : JournalEntry) : Json :=
  .obj [("record", e.record.toJson), ("status", e.status.toJson)]

/-- Entries, oldest first. -/
structure Journal where
  entries : List JournalEntry
  deriving DecidableEq

namespace Journal

/-- The number of entries that a journal may hold. -/
def capacity : Nat := 500

/-- The journal without entries. -/
def empty : Journal := ⟨[]⟩

/-- Makes room for one more entry. -/
def evict (j : Journal) : Journal :=
  if j.entries.length = capacity then ⟨j.entries.drop 1⟩ else j

/-- Adds a record whose delivery has yet to begin. -/
def append (j : Journal) (r : AuditRecord) : Journal :=
  ⟨j.evict.entries ++ [{ record := r, status := .pending }]⟩

/-- Puts a state into the first of some entries with an identifier. -/
def setFirst (id : Uuid) (status : DeliveryStatus) : List JournalEntry → List JournalEntry
  | [] => []
  | e :: rest =>
    if e.record.id = id then { e with status := status } :: rest
    else e :: setFirst id status rest

/-- Puts a state into the newest entry with an identifier. -/
def setStatus (j : Journal) (id : Uuid) (status : DeliveryStatus) : Journal :=
  ⟨(setFirst id status j.entries.reverse).reverse⟩

/-- The newest entries, newest first, up to a limit. -/
def recent (j : Journal) (limit : Nat) : List JournalEntry := j.entries.reverse.take limit

/-- The entries whose delivery was given up, oldest first. -/
def deadLetters (j : Journal) : List JournalEntry :=
  j.entries.filter fun e => e.status.isDeadLettered

end Journal

end AdminConsole
