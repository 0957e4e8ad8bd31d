import AdminConsole.Text.Percent
import AdminConsole.Text.Split

/-!
# Form-encoded queries

A query is a list of `name=value` pieces between ampersands, in which a plus sign stands for a
blank and bytes may be percent-encoded. Empty pieces are passed over, and a piece without an equals
sign has an empty value. Names and values whose bytes are no text match nothing.
-/

namespace AdminConsole.Form

/-- The text behind a form-encoded one. -/
def decode? (cs : List Char) : Option String :=
  Percent.decode? (String.ofList (cs.map fun c => if c == '+' then ' ' else c))

/-- Name and value of a piece. -/
def ofPiece (cs : List Char) : Option String × Option String :=
  match Text.cut '=' cs with
  | some (name, value) => (decode? name, decode? value)
  | none => (decode? cs, some "")

/-- The pieces of a query, in order. -/
def ofQuery (query : String) : List (Option String × Option String) :=
  ((Text.pieces '&' query.toList).filter fun cs => !cs.isEmpty).map ofPiece

/-- A field that may be given once, and if so with a value that `decode` takes. The outer result is
absent when the query is refused. -/
def optional? {α : Type} (query name : String) (decode : String → Option α) :
    Option (Option α) :=
  match (ofQuery query).filter (·.1 == some name) with
  | [] => some none
  | [(_, value)] => ((value.bind decode)).map some
  | _ => none

end AdminConsole.Form
