import AdminConsole.Text.Utf8

/-!
# Header fields

Fields are kept in the order in which they came. Names are compared without regard to the case of
ASCII letters. A value can be read when it holds nothing but printable ASCII characters, blanks and
tabs; of several fields of one name, `first?` and `readable?` look at the first only.
-/

namespace AdminConsole

/-- Header fields in order: name and bytes. -/
abbrev Headers := List (String × List UInt8)

namespace Headers

/-- The name with small ASCII letters. -/
def lowered (name : String) : String := name.map Char.toLower

/-- The two names are of one field. -/
def sameName (a b : String) : Bool := lowered a == lowered b

/-- A byte that may stand in a readable value. -/
def isReadable (b : UInt8) : Bool := b == 9 || (0x20 ≤ b && b ≤ 0x7e)

/-- The text of a readable value. -/
def text? (value : List UInt8) : Option String :=
  if value.all isReadable then some (String.ofList (value.map fun b => Char.ofNat b.toNat))
  else none

/-- The values of all fields of a name, in order. -/
def all (h : Headers) (name : String) : List (List UInt8) :=
  (h.filter fun field => sameName field.1 name).map (·.2)

/-- The value of the first field of a name. -/
def first? (h : Headers) (name : String) : Option (List UInt8) :=
  (h.find? fun field => sameName field.1 name).map (·.2)

/-- The text of the first field of a name, if it can be read. -/
def readable? (h : Headers) (name : String) : Option String := (h.first? name).bind text?

end Headers

end AdminConsole
