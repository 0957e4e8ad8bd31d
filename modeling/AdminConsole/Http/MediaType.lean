import AdminConsole.Http.Headers

/-!
# Media types

The content type of a body: type, subtype and parameters. A body is taken for JSON when its type is
`application` and its subtype, before or after the last plus sign, is `json`.
-/

namespace AdminConsole

/-- A media type without its parameters, in small letters. The subtype ends before the last plus
sign that is not its first character, and the suffix follows it. -/
structure MediaType where
  type : String
  subtype : String
  suffix : Option String
  deriving DecidableEq, Repr

namespace MediaType

/-- A character of a name: a letter, a digit or one of fifteen signs. -/
def isTokenChar (c : Char) : Bool :=
  c.isAlphanum || "!#$%&'*+-.^_\x60|~".toList.contains c

/-- A character that may stand between quotes. -/
def isQuotable (c : Char) : Bool := 0x1f < c.toNat && c.toNat != 0x7f

/-- What follows a quoted value, of which the opening quote has been read. There is at least one
character, which may itself be a quote. -/
def afterQuoted (cs : List Char) : Option (List Char) :=
  match cs with
  | c :: rest =>
    if isQuotable c then
      match rest.dropWhile fun c => isQuotable c && c != '"' with
      | '"' :: after => some after
      | _ => none
    else none
  | [] => none

/-- The characters are parameters, each but the first after a semicolon: a name, an equals sign,
and a value that is quoted or not. -/
def areParameters : (fuel : Nat) → List Char → Bool
  | _, [] => true
  | 0, _ => false
  | fuel + 1, ' ' :: rest => areParameters fuel rest
  | fuel + 1, cs =>
    let name := cs.takeWhile isTokenChar
    match name, cs.dropWhile isTokenChar with
    | _ :: _, '=' :: '"' :: rest =>
      match afterQuoted rest with
      | none => false
      | some rest =>
        match rest.dropWhile (· == ' ') with
        | [] => true
        | ';' :: rest => areParameters fuel rest
        | _ => false
    | _ :: _, '=' :: rest =>
      match rest.takeWhile isTokenChar, rest.dropWhile isTokenChar with
      | _, [] => true
      | _ :: _, ';' :: rest => areParameters fuel rest
      | _, _ => false
    | _, _ => false

/-- A subtype cut at its last plus sign that is not its first character. -/
def splitSuffix (subtype : List Char) : List Char × Option (List Char) :=
  let after := (subtype.reverse.takeWhile (· != '+')).reverse
  let before := subtype.take (subtype.length - after.length - 1)
  if before.isEmpty then (subtype, none) else (before, some after)

/-- Reads a media type. -/
def parse? (s : String) : Option MediaType :=
  let cs := s.toList
  let small (cs : List Char) : String := String.ofList (cs.map Char.toLower)
  match cs.takeWhile isTokenChar, cs.dropWhile isTokenChar with
  | type@(_ :: _), '/' :: rest =>
    let subtype := rest.takeWhile isTokenChar
    let parameters :=
      match subtype, rest.dropWhile isTokenChar with
      | _, [] => true
      | _ :: _, ';' :: rest => areParameters rest.length rest
      | _, _ => false
    let (before, after) := splitSuffix subtype
    if parameters then
      some { type := small type, subtype := small before, suffix := after.map small }
    else none
  | _, _ => none

/-- The body is JSON. -/
def isJson (m : MediaType) : Bool :=
  m.type == "application" && (m.subtype == "json" || m.suffix == some "json")

/-- The headers say that the body is JSON. -/
def headersSayJson (h : Headers) : Bool :=
  ((h.readable? "content-type").bind parse?).any isJson

end MediaType

end AdminConsole
