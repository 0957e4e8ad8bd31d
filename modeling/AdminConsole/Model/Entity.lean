import AdminConsole.Uuid

/-!
# Entities in lists

The sections of the console are lists of things with identifiers. The first thing with an
identifier is the one that is meant by it.
-/

namespace AdminConsole

/-- Things that carry an identifier. -/
class Entity (α : Type) where
  id : α → Uuid

namespace Entity

variable {α : Type} [Entity α]

/-- The first thing with an identifier. -/
def find? (target : Uuid) (xs : List α) : Option α := xs.find? fun a => id a = target

end Entity

end AdminConsole
