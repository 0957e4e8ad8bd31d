import AdminConsole.Action.Kind
import AdminConsole.Text.Split

/-!
# Routes

The tables of what can be asked for: which method on which path leads where. Paths are compared
segment by segment and without decoding; an identifier in a path is any segment, and is looked into
later. Only the last segment of a path must not be empty.
-/

namespace AdminConsole

/-- The pages that have a path; an identifier is still as it stands in the path. -/
inductive PageRoute
  | overview
  | members
  | member (id : String)
  | moderation
  | engagement
  | revenue
  | payments
  | ads
  | roles
  | settings
  | audit
  deriving DecidableEq, Repr

/-- Where a request leads. -/
inductive Route
  | health
  | createSession
  | showSession
  | endSession
  | switchRole
  | page (p : PageRoute)
  /-- An action on the thing with an identifier, which is still as it stands in the path. -/
  | act (kind : ActionKind) (id : String)
  /-- The change of the settings, which have no identifier. -/
  | changeSettings
  deriving DecidableEq, Repr

namespace Route

/-- The segments of a path after its leading slash. -/
def segments (path : String) : List String :=
  match Text.pieces '/' path.toList with
  | [] :: rest => rest.map String.ofList
  | _ => []

/-- A table of routes: those on a path, by method. -/
abbrev Table := List String → List (String × Route)

/-- The health check and the sign-in. -/
def onOpen : Table
  | ["health"] => [("GET", health)]
  | ["api", "session"] => [("POST", createSession)]
  | _ => []

/-- What can be done with a session. -/
def onSession : Table
  | ["api", "session"] => [("GET", showSession), ("DELETE", endSession)]
  | ["api", "session", "role"] => [("PUT", switchRole)]
  | _ => []

/-- The pages and the actions. -/
def onConsole : Table
  | ["dashboard"] => [("GET", page .overview)]
  | ["users"] => [("GET", page .members)]
  | ["users", id] =>
    [("GET", page (.member id)), ("PATCH", act .editMember id), ("DELETE", act .deleteMember id)]
  | ["users", id, "ban"] => [("POST", act .banMember id)]
  | ["users", id, "unban"] => [("POST", act .unbanMember id)]
  | ["users", id, "verify"] => [("POST", act .verifyMember id)]
  | ["moderation"] => [("GET", page .moderation)]
  | ["moderation", id, "resolve"] => [("POST", act .resolveReport id)]
  | ["moderation", id, "dismiss"] => [("POST", act .dismissReport id)]
  | ["moderation", id, "remove-content"] => [("POST", act .removeContent id)]
  | ["analytics", "engagement"] => [("GET", page .engagement)]
  | ["analytics", "revenue"] => [("GET", page .revenue)]
  | ["payments"] => [("GET", page .payments)]
  | ["payments", id, "refund"] => [("POST", act .refundPayment id)]
  | ["ads"] => [("GET", page .ads)]
  | ["ads", id, "pause"] => [("POST", act .pauseCampaign id)]
  | ["ads", id, "resume"] => [("POST", act .resumeCampaign id)]
  | ["roles"] => [("GET", page .roles)]
  | ["roles", "team", id] => [("PUT", act .assignRole id)]
  | ["settings"] => [("GET", page .settings), ("PUT", changeSettings)]
  | ["audit-log"] => [("GET", page .audit)]
  | _ => []

/-- The method whose route serves a method: a request for the head alone is served like one for the
whole. -/
def servingMethod (method : String) : String := if method == "HEAD" then "GET" else method

end Route

end AdminConsole
