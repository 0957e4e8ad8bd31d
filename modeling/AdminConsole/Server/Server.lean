import AdminConsole.Config
import AdminConsole.Console
import AdminConsole.Server.Body
import AdminConsole.Server.Reply
import AdminConsole.Server.Router
import AdminConsole.Session.Credential
import AdminConsole.Session.Store

/-!
# The server

`Server.handle` answers one request in two steps. The first finds out where the request leads and,
where the session layer stands before that, looks up the session; this puts the session and its actor
into the request (`Server.pass`). The second runs what the request leads to, which reads the actor
or the session out of the request again (`Server.arrive`).
-/

namespace AdminConsole

/-- The server between two requests, how it recognises user agents, and what becomes of its sums. -/
structure Server where
  recognise : String → Option Agent
  overflow : Overflow
  trustProxy : Bool
  defaultRole : Role
  sessions : SessionStore
  console : Console

/-- What the surroundings give to a request: the present instant, and identifiers for what it may
bring about. -/
structure Moment where
  now : Instant
  recordId : Uuid
  sessionId : Uuid
  actorId : Uuid
  deriving DecidableEq

namespace Moment

/-- What is given to an action. -/
def occasion (m : Moment) : Occasion := { now := m.now, recordId := m.recordId }

end Moment

namespace Server

/-- A server without sessions, unless their lifetime is too long to be held. -/
def start (recognise : String → Option Agent) (overflow : Overflow) (trustProxy : Bool)
    (defaultRole : Role) (ttl : Int) (console : Console) : Except Abort Server :=
  match SessionStore.new ttl with
  | .ok sessions => .ok {
      recognise := recognise, overflow := overflow, trustProxy := trustProxy
      defaultRole := defaultRole, sessions := sessions, console := console }
  | .error e => .error e

/-- What a request does to the server, unless the program stops. -/
abbrev Handled := Except Abort (Response × Server)

/-! ## Open routes -/

/-- The state of the server at a glance. -/
def health (s : Server) : Response :=
  .json 200 (.obj [("status", .str "ok"), ("audit_transport", .str s.console.outbox.channel.name),
    ("active_sessions", .nat s.sessions.size)])

/-- The cookie that remembers a role. -/
def rememberRole (role : Role) : SetCookie := .put Credential.roleCookie role.tag

/-- Starts a session for a new actor. The role is the one asked for, or else the one remembered by
a cookie; what is no role's tag gives way to the default. -/
def createSession (s : Server) (m : Moment) (r : Request) : Handled :=
  match r.optionalBody Body.signIn with
  | .error e => .ok (.bare e.status, s)
  | .ok body =>
    let remembered := (Cookies.ofHeaders r.headers).value? Credential.roleCookie
    let role := Role.resolve (body.join <|> remembered) s.defaultRole
    match s.sessions.create m.now m.sessionId { id := m.actorId, role := role } with
    | .error e => .error e
    | .ok (session, sessions) =>
      .ok ((Response.json 201 session.toJson).withCookies
        [.put Credential.sessionCookie session.id.text, rememberRole role],
        { s with sessions := sessions })

/-! ## Routes that read the session -/

/-- Gives the session another role and remembers that. -/
def switchRole (s : Server) (m : Moment) (r : Request) (session : Session) : Response × Server :=
  match r.requiredBody Body.switchRole with
  | .error e => (.bare e.status, s)
  | .ok tag =>
    let role := Role.resolve (some tag) s.defaultRole
    match s.sessions.switchRole m.now session.id role with
    | (none, sessions) => (.signInRequired, { s with sessions := sessions })
    | (some updated, sessions) =>
      ((Response.json 200 updated.toJson).withCookies [rememberRole role],
        { s with sessions := sessions })

/-- Ends the session; a cookie that held its token is taken away. -/
def endSession (s : Server) (r : Request) (session : Session) : Response × Server :=
  let held := ((Cookies.ofHeaders r.headers).value? Credential.sessionCookie).isSome
  ((Response.bare 204).withCookies (if held then [.remove Credential.sessionCookie] else []),
    { s with sessions := (s.sessions.remove session.id).2 })

/-- Opens the page that a request asks for. -/
def openPage (s : Server) (r : Request) (actor : Actor) (route : PageRoute) :
    Except Abort Response :=
  match r.page route with
  | .error e => .ok (.bare e.status)
  | .ok request => (s.console.view s.overflow actor request).map (Response.ofOutcome Page.toJson)

/-- Performs the action that a request asks for. -/
def act (s : Server) (m : Moment) (r : Request) (actor : Actor)
    (asked : Except Rejection Action) : Response × Server :=
  match asked with
  | .error e => (.bare e.status, s)
  | .ok action =>
    let origin := Origin.ofRequest s.recognise s.trustProxy r.peer r.headers
    let (outcome, console) := Console.perform actor origin m.occasion action s.console
    (.ofOutcome ActionReceipt.toJson outcome, { s with console := console })

/-! ## What a request carries -/

/-- What the session layer puts into a request for whatever stands behind it. -/
structure Extensions where
  actor : Option Actor
  session : Option Session
  deriving DecidableEq

namespace Extensions

/-- Nothing was put into the request. -/
def none : Extensions := { actor := .none, session := .none }

/-- What is put in for a session. -/
def of (session : Session) : Extensions := { actor := some session.actor, session := some session }

end Extensions

/-- Runs with the session that the request carries. -/
def withSession (s : Server) (e : Extensions) (run : Session → Response × Server) :
    Response × Server :=
  match e.session with
  | some session => run session
  | none => (.bare 500, s)

/-- Runs with the actor whom the request carries. -/
def withActor (e : Extensions) (run : Actor → Handled) : Handled :=
  match Actor.ofRequest e.actor with
  | .ok actor => run actor
  | .error abort => .error abort

/-- Answers a request on a known route. -/
def serve (s : Server) (m : Moment) (r : Request) (e : Extensions) : Route → Handled
  | .health => .ok (s.health, s)
  | .createSession => s.createSession m r
  | .showSession => .ok (s.withSession e fun session => (.json 200 session.toJson, s))
  | .endSession => .ok (s.withSession e (s.endSession r))
  | .switchRole => .ok (s.withSession e (s.switchRole m r))
  | .page route => withActor e fun actor =>
    (s.openPage r actor route).map fun answer => (answer, s)
  | .act kind segment => withActor e fun actor => .ok (s.act m r actor (r.action kind segment))
  | .changeSettings => withActor e fun actor => .ok (s.act m r actor r.settingsChange)

/-! ## Requests -/

/-- The live session that a request names; an expired one is dropped. -/
def authenticate (s : Server) (m : Moment) (r : Request) : Option Session × Server :=
  match Credential.token? r.headers with
  | none => (none, s)
  | some token =>
    let (session, sessions) := s.sessions.get m.now token
    (session, { s with sessions := sessions })

/-- How far a request gets. -/
inductive Passage
  /-- It asks for options, which are told to everyone. -/
  | options
  /-- The session layer finds no live session. -/
  | turnedAway
  | passed (destination : Destination) (e : Extensions)
  deriving DecidableEq

/-- The session layer: it lets a request pass with the live session that it names. -/
def requireSession (s : Server) (m : Moment) (r : Request) (destination : Destination) :
    Passage × Server :=
  match s.authenticate m r with
  | (none, s) => (.turnedAway, s)
  | (some session, s) => (.passed destination (.of session), s)

/-- Finds out how far a request gets. -/
def pass (s : Server) (m : Moment) (r : Request) : Passage × Server :=
  if r.method == "OPTIONS" then (.options, s)
  else
    match Router.whole.find r.method r.path with
    | (destination, false) => (.passed destination .none, s)
    | (destination, true) => s.requireSession m r destination

/-- Answers a request that has got so far. -/
def arrive (s : Server) (m : Moment) (r : Request) : Passage → Handled
  | .options => .ok (.bare 200, s)
  | .turnedAway => .ok (.signInRequired, s)
  | .passed .nowhere _ => .ok (.bare 404, s)
  | .passed .otherMethod _ => .ok (.bare 405, s)
  | .passed (.route route) e => s.serve m r e route

/-- Answers a request as if its whole answer were wanted. -/
def answer (s : Server) (m : Moment) (r : Request) : Handled :=
  let (passage, s) := s.pass m r
  s.arrive m r passage

/-- The body of the answer is not wanted: the request is for the head alone. A request for an unknown
path is told what is wrong with it all the same. -/
def wantsHeadOnly (r : Request) : Bool :=
  r.method == "HEAD" &&
    !(r.path.startsWith "/" && (Router.whole.mount? (Route.segments r.path)).isNone)

/-- What is sent of an answer: the body is left out where only the head is wanted. -/
def wanted (r : Request) (response : Response) : Response :=
  if wantsHeadOnly r then response.withoutBody else response

/-- Answers a request. -/
def handle (s : Server) (m : Moment) (r : Request) : Handled :=
  (s.answer m r).map fun (response, s) => (wanted r response, s)

end Server

end AdminConsole
