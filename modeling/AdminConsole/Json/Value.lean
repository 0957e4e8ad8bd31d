/-!
# JSON values

The values that answers and records are made of. Objects keep their fields in order.
-/

namespace AdminConsole

/-- A JSON value; a double is given by its bits. -/
inductive Json
  | null
  | bool (b : Bool)
  | int (n : Int)
  | double (bits : UInt64)
  | str (s : String)
  | arr (items : List Json)
  | obj (fields : List (String × Json))
  deriving Inhabited, Repr

namespace Json

/-- A natural number. -/
def nat (n : Nat) : Json := int (Int.ofNat n)

/-- A value that may be absent; absence is null. -/
def option {α : Type} (f : α → Json) : Option α → Json
  | none => null
  | some a => f a

/-- A list of values of one kind. -/
def list {α : Type} (f : α → Json) (as : List α) : Json := arr (as.map f)

/-- A floating-point figure. -/
def ofFloat (x : Float) : Json := double x.toBits

/-- A field with a text, or no field at all. -/
def optionalField (name : String) : Option String → List (String × Json)
  | none => []
  | some s => [(name, str s)]

/-- The value of the first field of a name. -/
def field? (name : String) : Json → Option Json
  | obj fields => (fields.find? fun f => f.1 == name).map (·.2)
  | _ => none

end Json

end AdminConsole
