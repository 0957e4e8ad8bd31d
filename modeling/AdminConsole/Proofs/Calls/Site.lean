import AdminConsole.Proofs.Calls.Accounts
import AdminConsole.Proofs.Session.Store
import AdminConsole.Server.Server

/-! # Sessions and calls

A **site** is the session store beside the floor.  A request is authenticated
once: its token is looked up, and the call that it makes carries the actor of
the session as it stood then.  From there on the floor knows nothing of
sessions.  Between the lookup and the last step of the call the session may get
another role, end, expire or be swept away, and other requests come and go.

A request that nobody interrupts is what the server makes of it
(`Server.handle_eq_run`).
-/
namespace AdminConsole

namespace Request

/-- The action that a request asks for, if its path and method lead to one and its arguments can be
read. -/
def asked? (r : Request) : Option Action :=
  match Route.find? r.method r.path with
  | some (.act kind segment) => (r.action kind segment).toOption
  | some .changeSettings => r.settingsChange.toOption
  | _ => none

end Request

/-- The sessions, and the calls under way, beside how user agents are recognised. -/
structure Site where
  recognise : String → Option Agent
  trustProxy : Bool
  sessions : SessionStore
  floor : Floor

/-- What can happen on a site. -/
inductive Event
  | signIn (now : Instant) (id : Uuid) (actor : Actor)
  | switchRole (now : Instant) (id : Uuid) (role : Role)
  | signOut (id : Uuid)
  | sweep (now : Instant)
  /-- A request that needs a session is authenticated; one for an action becomes a call. -/
  | request (now : Instant) (r : Request)
  /-- A call takes a step. -/
  | turn (number : Nat) (t : Turn)
  | deliver
  | release

namespace Site

/-! ## Steps -/

/-- A site without sessions and calls. -/
def opened (recognise : String → Option Agent) (trustProxy : Bool) (ttl : Int) (c : Console) :
    Site where
  recognise := recognise
  trustProxy := trustProxy
  sessions := { ttl := ttl, sessions := [] }
  floor := Floor.opened c

/-- The call that a request makes with a session. -/
def call? (s : Site) (session : Session) (r : Request) : Option Call :=
  r.asked?.map fun a => {
    actor := session.actor
    origin := Origin.ofRequest s.recognise s.trustProxy r.peer r.headers
    action := a }

/-- The live session that a request names, and the sessions after the lookup. -/
def lookUp (s : Site) (now : Instant) (r : Request) : Option Session × SessionStore :=
  match Credential.token? r.headers with
  | none => (none, s.sessions)
  | some token => s.sessions.get now token

/-- A request is authenticated, and makes its call with the session that was found. -/
def request (s : Site) (now : Instant) (r : Request) : Site where
  recognise := s.recognise
  trustProxy := s.trustProxy
  sessions := (s.lookUp now r).2
  floor :=
    match (s.lookUp now r).1.bind fun session => s.call? session r with
    | some call => s.floor.ask call
    | none => s.floor

/-- One event. -/
def step (s : Site) : Event → Site
  | .signIn now id actor => { s with sessions := s.sessions.started now id actor }
  | .switchRole now id role => { s with sessions := (s.sessions.switchRole now id role).2 }
  | .signOut id => { s with sessions := (s.sessions.remove id).2 }
  | .sweep now => { s with sessions := (s.sessions.purge now).2 }
  | .request now r => s.request now r
  | .turn number t => { s with floor := s.floor.step (.turn number t) }
  | .deliver => { s with floor := s.floor.step .deliver }
  | .release => { s with floor := s.floor.step .release }

/-- Events one after the other. -/
def run (s : Site) (events : List Event) : Site := events.foldl step s

@[simp] theorem run_nil (s : Site) : s.run [] = s := rfl

@[simp] theorem run_cons (s : Site) (e : Event) (events : List Event) :
    s.run (e :: events) = (s.step e).run events := rfl

theorem run_append (s : Site) (events more : List Event) :
    s.run (events ++ more) = (s.run events).run more := List.foldl_append

theorem run_concat (s : Site) (events : List Event) (e : Event) :
    s.run (events ++ [e]) = (s.run events).step e := run_append s events [e]

/-! ## What a request can do -/

/-- The session that is found is live and has the token that the request names. -/
theorem lookUp_some {s : Site} {now : Instant} {r : Request} {session : Session}
    (h : (s.lookUp now r).1 = some session) : Credential.token? r.headers = some session.id ∧
      session ∈ s.sessions.sessions ∧ session.isExpired now = false := by
  unfold lookUp at h
  split at h
  · cases h
  · next token htoken =>
    obtain ⟨hmem, rfl, hlive⟩ := SessionStore.get_some h
    exact ⟨htoken, hmem, hlive⟩

/-- A call carries the actor of the session with which it was made. -/
theorem call?_actor {s : Site} {session : Session} {r : Request} {call : Call}
    (h : s.call? session r = some call) : call.actor = session.actor := by
  obtain ⟨a, -, rfl⟩ := Option.map_eq_some_iff.mp h
  rfl

/-- A lookup leaves the sessions as they are, or drops one that it finds expired. -/
theorem lookUp_sessions (s : Site) (now : Instant) (r : Request) :
    (s.lookUp now r).2 = s.sessions ∨ ∃ token, (s.lookUp now r).2 = s.sessions.without token := by
  unfold lookUp
  split
  · exact Or.inl rfl
  · next token _ =>
    rcases SessionStore.get_snd s.sessions now token with h | h
    · exact Or.inl h
    · exact Or.inr ⟨token, h⟩

/-- A request makes a call, or leaves the floor alone. -/
theorem request_floor (s : Site) (now : Instant) (r : Request) :
    (s.request now r).floor = s.floor ∨ ∃ session call, (s.lookUp now r).1 = some session ∧
      s.call? session r = some call ∧ (s.request now r).floor = s.floor.ask call := by
  show (match (s.lookUp now r).1.bind fun session => s.call? session r with
    | some call => s.floor.ask call | none => s.floor) = s.floor ∨ ∃ session call, _ ∧ _ ∧
      (match (s.lookUp now r).1.bind fun session => s.call? session r with
        | some call => s.floor.ask call | none => s.floor) = _
  cases hcall : (s.lookUp now r).1.bind fun session => s.call? session r with
  | none => exact Or.inl rfl
  | some call =>
    obtain ⟨session, hfound, hmakes⟩ := Option.bind_eq_some_iff.mp hcall
    exact Or.inr ⟨session, call, hfound, hmakes, rfl⟩

/-- What an event does to the floor is a move, if it is anything. -/
theorem step_floor (s : Site) (e : Event) :
    (s.step e).floor = s.floor ∨ ∃ m, (s.step e).floor = s.floor.step m := by
  cases e with
  | signIn _ _ _ => exact Or.inl rfl
  | switchRole _ _ _ => exact Or.inl rfl
  | signOut _ => exact Or.inl rfl
  | sweep _ => exact Or.inl rfl
  | request now r =>
    rcases s.request_floor now r with h | ⟨_, call, -, -, h⟩
    · exact Or.inl h
    · exact Or.inr ⟨.ask call, h⟩
  | turn number t => exact Or.inr ⟨.turn number t, rfl⟩
  | deliver => exact Or.inr ⟨.deliver, rfl⟩
  | release => exact Or.inr ⟨.release, rfl⟩

/-- What happens on a site is a run of its floor. -/
theorem run_floor (s : Site) (events : List Event) :
    ∃ moves, (s.run events).floor = s.floor.run moves := by
  induction events generalizing s with
  | nil => exact ⟨[], rfl⟩
  | cons e events ih =>
    obtain ⟨moves, hmoves⟩ := ih (s.step e)
    rcases s.step_floor e with h | ⟨m, h⟩
    · exact ⟨moves, by rw [run_cons, hmoves, h]⟩
    · exact ⟨m :: moves, by rw [run_cons, hmoves, h, Floor.run_cons]⟩

end Site

end AdminConsole
