import AdminConsole.Http.Cookie
import AdminConsole.Json.Value
import AdminConsole.Net.Address

/-!
# Requests and answers

A request is given by its method, the path and the query of its target, its header fields and its
body. An answer has a status, at most one JSON body, and the cookies that it sets.
-/

namespace AdminConsole

/-- A request. -/
structure Request where
  method : String
  path : String
  query : String
  headers : Headers
  body : List UInt8
  /-- The address of the peer, if it is known. -/
  peer : Option IpAddress

namespace Request

/-- What follows the scheme of an absolute target, if there is one. -/
def afterScheme? : List Char → Option (List Char)
  | [] => none
  | ':' :: '/' :: '/' :: rest => some rest
  | _ :: rest => afterScheme? rest

/-- Path and query of a target, still joined. An absolute target loses its scheme and authority,
and its path is never empty; a target that is an authority alone has no path. -/
def pathAndQuery (cs : List Char) : List Char :=
  if cs.head? = some '/' ∨ cs = ['*'] then cs
  else match afterScheme? cs with
    | none => []
    | some rest =>
      let rest := rest.dropWhile fun c => c != '/' && c != '?'
      if rest.head? = some '/' then rest else '/' :: rest

/-- Path and query of a target. What follows a number sign belongs to neither. -/
def splitTarget (target : String) : String × String :=
  let cs := pathAndQuery (Text.upTo (Char.ofNat 0x23) target.toList)
  match Text.cut '?' cs with
  | some (path, query) => (String.ofList path, String.ofList query)
  | none => (String.ofList cs, "")

/-- A request for a target. -/
def ofTarget (method target : String) (headers : Headers) (body : List UInt8)
    (peer : Option IpAddress) : Request :=
  let (path, query) := splitTarget target
  { method := method, path := path, query := query, headers := headers, body := body, peer := peer }

end Request

/-- An answer. -/
structure Response where
  status : Nat
  body : Option Json
  setCookies : List SetCookie

namespace Response

/-- An answer without a body. -/
def bare (status : Nat) : Response := { status := status, body := none, setCookies := [] }

/-- An answer with a body. -/
def json (status : Nat) (body : Json) : Response :=
  { status := status, body := some body, setCookies := [] }

/-- The answer with cookies. -/
def withCookies (r : Response) (cookies : List SetCookie) : Response :=
  { r with setCookies := cookies }

/-- The answer without its body. -/
def withoutBody (r : Response) : Response := { r with body := none }

end Response

end AdminConsole
