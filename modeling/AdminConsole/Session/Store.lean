import AdminConsole.Access.Actor
import AdminConsole.Time.Rfc3339

/-!
# Sessions

A session gives an actor access until it expires; switching the role changes nothing but the role.
The store drops an expired session when it is looked up, when its role is to be switched, and when
the store is purged, so between these it may linger. Every operation is told the present instant.
-/

namespace AdminConsole

/-- An operator's access to the console. -/
structure Session where
  /-- The token that names the session. -/
  id : Uuid
  actor : Actor
  createdAt : Instant
  expiresAt : Instant
  deriving DecidableEq

namespace Session

/-- The session has ended by the given instant. -/
def isExpired (s : Session) (now : Instant) : Bool := decide (s.expiresAt ≤ now)

/-- The session with another role. -/
def withRole (s : Session) (role : Role) : Session :=
  { s with actor := { s.actor with role := role } }

/-- The whole seconds from creation to expiry. -/
def lifetime (s : Session) : Int := s.expiresAt.seconds - s.createdAt.seconds

/-- The session as it is shown to its owner. -/
def toJson (s : Session) : Json :=
  .obj [("session_id", .str s.id.text),
    ("actor", s.actor.toJson),
    ("role", .str s.actor.role.tag),
    ("role_label", .str s.actor.role.label),
    ("permissions", .list (fun p => .str p.tag) s.actor.permissions),
    ("expires_at", .str s.expiresAt.text)]

end Session

/-- The sessions and the lifetime of new ones in seconds. -/
structure SessionStore where
  ttl : Int
  sessions : List Session
  deriving DecidableEq

namespace SessionStore

/-- The longest lifetime in seconds: a lifetime is held in milliseconds, in 64 bits. -/
def longestTtl : Int := 9223372036854775

/-- A store without sessions, unless the lifetime is too long to be held. -/
def new (ttl : Int) : Except Abort SessionStore :=
  if -longestTtl ≤ ttl ∧ ttl ≤ longestTtl then .ok { ttl := ttl, sessions := [] }
  else .error .spanOutOfRange

/-- The sessions without the one of a token. -/
def without (store : SessionStore) (id : Uuid) : SessionStore :=
  { store with sessions := store.sessions.filter fun s => s.id ≠ id }

/-- The session of a token, expired or not. -/
def find? (store : SessionStore) (id : Uuid) : Option Session :=
  store.sessions.find? fun s => s.id = id

/-- Starts a session for an actor, unless it would end beyond the calendar. -/
def create (store : SessionStore) (now : Instant) (id : Uuid) (actor : Actor) :
    Except Abort (Session × SessionStore) :=
  match now.plusSeconds? store.ttl with
  | none => .error .dateOutOfRange
  | some expiry =>
    let session : Session := { id := id, actor := actor, createdAt := now, expiresAt := expiry }
    .ok (session, { store with sessions := (store.without id).sessions ++ [session] })

/-- The live session of a token; an expired one is dropped. -/
def get (store : SessionStore) (now : Instant) (id : Uuid) : Option Session × SessionStore :=
  match store.find? id with
  | none => (none, store)
  | some s => if s.isExpired now then (none, store.without id) else (some s, store)

/-- Gives the live session of a token another role; an expired one is dropped. -/
def switchRole (store : SessionStore) (now : Instant) (id : Uuid) (role : Role) :
    Option Session × SessionStore :=
  match store.find? id with
  | none => (none, store)
  | some s =>
    if s.isExpired now then (none, store.without id)
    else (some (s.withRole role), { store with
      sessions := store.sessions.map fun t => if t.id = id then t.withRole role else t })

/-- Ends the session of a token, and tells whether there was one. -/
def remove (store : SessionStore) (id : Uuid) : Bool × SessionStore :=
  ((store.find? id).isSome, store.without id)

/-- Drops every expired session, and tells how many there were. -/
def purge (store : SessionStore) (now : Instant) : Nat × SessionStore :=
  let kept := store.sessions.filter fun s => !s.isExpired now
  (store.sessions.length - kept.length, { store with sessions := kept })

/-- The store after purges at the given instants. -/
def sweep (store : SessionStore) (readings : List Instant) : SessionStore :=
  readings.foldl (fun st now => (st.purge now).2) store

/-- The number of sessions held, lingering ones included. -/
def size (store : SessionStore) : Nat := store.sessions.length

end SessionStore

end AdminConsole
