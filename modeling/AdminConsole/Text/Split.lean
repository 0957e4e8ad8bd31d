/-!
# Cutting texts at a separator

`pieces` cuts at every occurrence and yields one piece more than there are separators; `cut` cuts
at the first one only.
-/

namespace AdminConsole.Text

variable {α : Type} [BEq α]

/-- The pieces between the separators. -/
def pieces (separator : α) : List α → List (List α)
  | [] => [[]]
  | c :: rest =>
    if c == separator then [] :: pieces separator rest
    else match pieces separator rest with
      | [] => [[c]]
      | piece :: more => (c :: piece) :: more

/-- What stands before and after the first separator, if there is one. -/
def cut (separator : α) : List α → Option (List α × List α)
  | [] => none
  | c :: rest =>
    if c == separator then some ([], rest)
    else (cut separator rest).map fun (before, after) => (c :: before, after)

/-- What stands before the first separator, or everything. -/
def upTo (separator : α) (cs : List α) : List α := cs.takeWhile fun c => !(c == separator)

end AdminConsole.Text
