import AdminConsole.Http.Cookie
import AdminConsole.Uuid

/-!
# Credentials

A request names its session by a bearer token, or else by a cookie. The cookies that an answer sets
keep the session's token and, for the next sign-in, the role.
-/

namespace AdminConsole.Credential

/-- The name of the cookie that holds the token. -/
def sessionCookie : String := "hl_admin_session"

/-- The name of the cookie that holds the role. -/
def roleCookie : String := "hl_admin_role"

/-- What stands before a bearer token. -/
def bearerScheme : List Char := "Bearer ".toList

/-- The token of the bearer scheme. -/
def bearer? (h : Headers) : Option Uuid := do
  let value ← h.readable? "authorization"
  if bearerScheme.isPrefixOf value.toList then
    Uuid.parse? (String.ofList (Text.trimChars (value.toList.drop bearerScheme.length)))
  else none

/-- The token of the cookie. -/
def cookie? (h : Headers) : Option Uuid :=
  ((Cookies.ofHeaders h).value? sessionCookie).bind Uuid.parse?

/-- The token of the session that a request names. -/
def token? (h : Headers) : Option Uuid := bearer? h <|> cookie? h

end AdminConsole.Credential
