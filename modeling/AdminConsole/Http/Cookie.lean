import AdminConsole.Http.Headers
import AdminConsole.Text.Blank
import AdminConsole.Text.Percent
import AdminConsole.Text.Split

/-!
# Cookies

A request carries cookies in its `Cookie` fields, as `name=value` pieces between semicolons. Name
and value are trimmed and percent-decoded; a piece without an equals sign or without a name is
passed over. Of cookies of one name the last counts.
-/

namespace AdminConsole

/-- Cookies in order: name and value. -/
abbrev Cookies := List (String × String)

namespace Cookies

/-- The text of some characters without blanks at the ends and percent encoding. -/
def decoded? (cs : List Char) : Option String :=
  Percent.decode? (String.ofList (Text.trimChars cs))

/-- The cookie that a piece denotes. -/
def ofPiece? (cs : List Char) : Option (String × String) := do
  let (name, value) ← Text.cut '=' cs
  if (Text.trimChars name).isEmpty then none
  else return (← decoded? name, ← decoded? value)

/-- The cookies of a request, in order. -/
def ofHeaders (h : Headers) : Cookies :=
  ((h.all "cookie").filterMap Headers.text?).flatMap fun s =>
    (Text.pieces ';' s.toList).filterMap ofPiece?

/-- The value of the last cookie of a name. -/
def value? (cookies : Cookies) (name : String) : Option String :=
  (cookies.reverse.find? (·.1 == name)).map (·.2)

end Cookies

/-- A cookie that an answer sets, or one that it takes away. -/
inductive SetCookie
  | put (name value : String)
  | remove (name : String)
  deriving DecidableEq, Repr

namespace SetCookie

/-- The value of the answer's field; where the cookie is taken away, its date of expiry is left
out. -/
def text : SetCookie → String
  | put name value => name ++ "=" ++ value ++ "; HttpOnly; SameSite=Lax; Path=/"
  | remove name => name ++ "=; Path=/; Max-Age=0"

end SetCookie

end AdminConsole
