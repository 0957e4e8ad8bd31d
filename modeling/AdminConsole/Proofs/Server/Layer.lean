import AdminConsole.Model.Sample
import AdminConsole.Proofs.Page.Render
import AdminConsole.Proofs.Server.Handle
import AdminConsole.Proofs.Session.Past

/-! # The session layer

Behind the session layer there are only requests with a live session.  A request
meets the layer once (`Server.pass`).  If the token that it names has a live
session then, it goes on to its route and carries that session and its actor;
otherwise it is turned away.  What stands behind the layer reads the actor out
of the request, and gives up if there is none: so it matters that a route before
which the layer does not stand never asks for one.

A server comes from state to state by small steps: requests meet the layer,
requests that got past it are answered later and in any order, expired sessions
are swept away, and calls and deliveries change the console.  All that is needed
of a state is that no two of its sessions have the same token, or the session
that a lookup finds would hide another one.
-/
namespace AdminConsole

theorem SessionStore.started_of_create {store store' : SessionStore} {now : Instant} {id : Uuid}
    {actor : Actor} {session : Session} (h : store.create now id actor = .ok (session, store')) :
    store.started now id actor = store' := by
  unfold started
  rw [h]

namespace Server

variable {s s' : Server} {m : Moment} {r : Request} {e : Extensions} {route : Route}
  {session : Session} {response : Response}

theorem createSession_ne_noActor : s.createSession m r ≠ .error .noActor := by
  intro h
  unfold createSession at h
  split at h
  · cases h
  · simp only [SessionStore.create] at h
    cases hexpiry : m.now.plusSeconds? s.sessions.ttl with
    | none =>
        rw [hexpiry] at h
        cases h
    | some expiry =>
        rw [hexpiry] at h
        cases h

theorem openPage_ne_noActor {actor : Actor} {p : PageRoute} :
    s.openPage r actor p ≠ .error .noActor := by
  intro h
  unfold openPage at h
  split at h
  · cases h
  · rcases Console.view_error (error_of_map h) with hquotient | hsum
    · cases hquotient
    · cases hsum

/-- With an actor in the request, whatever fails fails later. -/
theorem exists_of_withActor_error {run : Actor → Handled} {abort : Abort}
    (hactor : e.actor.isSome = true) (h : withActor e run = .error abort) :
    ∃ actor, run actor = .error abort := by
  obtain ⟨actor, hsome⟩ := Option.isSome_iff_exists.mp hactor
  unfold withActor at h
  rw [hsome] at h
  exact ⟨actor, h⟩

/-- Nothing but a missing actor makes a route ask for one in vain. -/
theorem serve_ne_noActor (h : route.needsSession = true → e.actor.isSome = true) :
    s.serve m r e route ≠ .error .noActor := by
  intro hserve
  cases route with
  | createSession => exact createSession_ne_noActor hserve
  | page p =>
      obtain ⟨actor, hopen⟩ := exists_of_withActor_error (h rfl) hserve
      exact openPage_ne_noActor (error_of_map hopen)
  | act kind segment =>
      obtain ⟨actor, hact⟩ := exists_of_withActor_error (h rfl) hserve
      cases hact
  | changeSettings =>
      obtain ⟨actor, hact⟩ := exists_of_withActor_error (h rfl) hserve
      cases hact
  | _ => cases hserve

/-! ## What a request makes of the sessions -/

/-- The sessions are left alone, or the store answers one call. -/
def AtMostOneCall (before after : SessionStore) : Prop :=
  after = before ∨ ∃ c : StoreCall, after = (before.serve c).2

theorem AtMostOneCall.distinct {before after : SessionStore} (h : AtMostOneCall before after)
    (hd : before.Distinct) : after.Distinct := by
  rcases h with rfl | ⟨c, rfl⟩
  · exact hd
  · exact hd.serve c

theorem authenticate_sessions : AtMostOneCall s.sessions (s.authenticate m r).2.sessions := by
  unfold authenticate
  split
  · exact Or.inl rfl
  · next token _ => exact Or.inr ⟨.get m.now token, rfl⟩

theorem pass_snd : (s.pass m r).2 = s ∨ (s.pass m r).2 = (s.authenticate m r).2 := by
  unfold pass
  split
  · exact Or.inl rfl
  · split
    · exact Or.inl rfl
    · rcases hfound : s.authenticate m r with ⟨_ | session, s'⟩
      · rw [requireSession_of_nobody hfound]
        exact Or.inr rfl
      · rw [requireSession_of_session hfound]
        exact Or.inr rfl

theorem pass_sessions : AtMostOneCall s.sessions (s.pass m r).2.sessions := by
  rcases s.pass_snd (m := m) (r := r) with hsame | hlooked
  · rw [hsame]
    exact Or.inl rfl
  · rw [hlooked]
    exact authenticate_sessions

theorem createSession_sessions (h : s.createSession m r = .ok (response, s')) :
    AtMostOneCall s.sessions s'.sessions := by
  unfold createSession at h
  split at h
  · cases h
    exact Or.inl rfl
  · next body _ =>
    simp only [] at h
    split at h
    · cases h
    · next session sessions hcreate =>
      cases h
      exact Or.inr ⟨.create m.now m.sessionId _, (SessionStore.started_of_create hcreate).symm⟩

theorem switchRole_sessions :
    AtMostOneCall s.sessions (s.switchRole m r session).2.sessions := by
  unfold switchRole
  split
  · exact Or.inl rfl
  · next tag _ =>
    refine Or.inr ⟨.switchRole m.now session.id (Role.resolve (some tag) s.defaultRole), ?_⟩
    show _ = (s.sessions.switchRole _ _ _).2
    simp only []
    split <;> next hswitch => rw [hswitch]

theorem withSession_sessions {run : Session → Response × Server}
    (hrun : ∀ session, AtMostOneCall s.sessions (run session).2.sessions)
    (h : s.withSession e run = (response, s')) : AtMostOneCall s.sessions s'.sessions := by
  unfold withSession at h
  split at h
  · next session _ =>
    have hstate := hrun session
    rw [h] at hstate
    exact hstate
  · cases h
    exact Or.inl rfl

theorem exists_of_withActor_ok {run : Actor → Handled} {answer : Response × Server}
    (h : withActor e run = .ok answer) : ∃ actor, run actor = .ok answer := by
  unfold withActor at h
  split at h
  · next actor _ => exact ⟨actor, h⟩
  · cases h

/-- An action leaves the sessions alone. -/
theorem act_sessions {actor : Actor} {asked : Except Rejection Action}
    (h : s.act m r actor asked = (response, s')) : s'.sessions = s.sessions := by
  cases asked with
  | error rejection =>
      cases h
      rfl
  | ok action =>
      cases h
      rfl

/-- Whatever is behind a route makes at most one call on the store. -/
theorem serve_sessions (h : s.serve m r e route = .ok (response, s')) :
    AtMostOneCall s.sessions s'.sessions := by
  cases route with
  | health =>
      cases h
      exact Or.inl rfl
  | createSession => exact createSession_sessions h
  | showSession => exact withSession_sessions (fun session => Or.inl rfl) (Except.ok.inj h)
  | endSession =>
      exact withSession_sessions (fun session => Or.inr ⟨.remove session.id, rfl⟩)
        (Except.ok.inj h)
  | switchRole => exact withSession_sessions (fun session => switchRole_sessions) (Except.ok.inj h)
  | page p =>
      obtain ⟨actor, hopen⟩ := exists_of_withActor_ok h
      obtain ⟨answer, -, hanswer⟩ := exists_ok_of_map hopen
      cases hanswer
      exact Or.inl rfl
  | act kind segment =>
      obtain ⟨actor, hact⟩ := exists_of_withActor_ok h
      exact Or.inl (act_sessions (Except.ok.inj hact))
  | changeSettings =>
      obtain ⟨actor, hact⟩ := exists_of_withActor_ok h
      exact Or.inl (act_sessions (Except.ok.inj hact))

theorem arrive_sessions {passage : Passage} (h : s.arrive m r passage = .ok (response, s')) :
    AtMostOneCall s.sessions s'.sessions := by
  cases passage with
  | options =>
      cases h
      exact Or.inl rfl
  | turnedAway =>
      cases h
      exact Or.inl rfl
  | passed destination e =>
      cases destination with
      | route route => exact serve_sessions h
      | otherMethod =>
          cases h
          exact Or.inl rfl
      | nowhere =>
          cases h
          exact Or.inl rfl

/-! ## The states of a server -/

/-- The states to which a server can come. -/
inductive Reachable : Server → Prop
  | started {s : Server} {recognise : String → Option Agent} {overflow : Overflow}
      {trustProxy : Bool} {defaultRole : Role} {ttl : Int} {console : Console}
      (h : start recognise overflow trustProxy defaultRole ttl console = .ok s) : Reachable s
  /-- A request meets the session layer. -/
  | passed {s : Server} (h : Reachable s) (m : Moment) (r : Request) : Reachable (s.pass m r).2
  /-- A request is answered that met the layer before, however long ago. -/
  | arrived {s s' : Server} {m : Moment} {r : Request} {passage : Passage} {response : Response}
      (h : Reachable s) (hanswer : s.arrive m r passage = .ok (response, s')) : Reachable s'
  /-- Expired sessions are swept away. -/
  | swept {s : Server} (h : Reachable s) (now : Instant) :
      Reachable { s with sessions := (s.sessions.purge now).2 }
  /-- A call takes a step, or a delivery. -/
  | worked {s : Server} (h : Reachable s) (console : Console) :
      Reachable { s with console := console }

/-- Whoever answers requests one after the other comes to such states. -/
theorem Reachable.handle (h : s.Reachable) (hanswer : s.handle m r = .ok (response, s')) :
    s'.Reachable := by
  obtain ⟨⟨whole, after⟩, harrive, hsent⟩ := exists_ok_of_map hanswer
  cases hsent
  exact .arrived (h.passed m r) harrive

/-- No two sessions of a server have the same token. -/
theorem Reachable.distinct (h : s.Reachable) : s.sessions.Distinct := by
  induction h with
  | started h =>
      unfold start SessionStore.new at h
      split at h
      · next sessions hnew =>
        cases h
        split at hnew
        · cases hnew
          exact List.nodup_nil
        · cases hnew
      · cases h
  | passed _ m r ih => exact pass_sessions.distinct ih
  | arrived _ hanswer ih => exact (arrive_sessions hanswer).distinct ih
  | swept _ now ih => exact ih.purge now
  | worked _ console ih => exact ih

/-! ## Meeting the layer -/

/-- A live session that the request names. -/
structure Admits (s : Server) (m : Moment) (r : Request) (session : Session) : Prop where
  named : Credential.token? r.headers = some session.id
  held : session ∈ s.sessions.sessions
  live : session.isExpired m.now = false

/-- The request names the session, and the session is expired. -/
def isStale (m : Moment) (r : Request) (session : Session) : Bool :=
  decide (Credential.token? r.headers = some session.id) && session.isExpired m.now

/-- The server without the expired session that the request names, if there is one. -/
def withoutStale (s : Server) (m : Moment) (r : Request) : Server :=
  { s with sessions := { s.sessions with
    sessions := s.sessions.sessions.filter fun session => !isStale m r session } }

/-- The layer finds the live session that the request names. -/
theorem authenticate_fst (h : s.sessions.Distinct) :
    (s.authenticate m r).1 = some session ↔ s.Admits m r session := by
  unfold authenticate
  cases htoken : Credential.token? r.headers with
  | none =>
      constructor
      · intro hfound
        cases hfound
      · intro hadmits
        cases htoken.symm.trans hadmits.named
  | some token =>
      show (s.sessions.get m.now token).1 = some session ↔ _
      rw [SessionStore.get_fst, SessionStore.live_eq_some_iff h]
      constructor
      · rintro ⟨hheld, rfl, hlive⟩
        exact ⟨htoken, hheld, hlive⟩
      · intro hadmits
        have hid : session.id = token := Option.some.inj (hadmits.named.symm.trans htoken)
        exact ⟨hadmits.held, hid, hadmits.live⟩

/-- With a live session the layer leaves the server as it is. -/
theorem authenticate_of_admits (h : s.sessions.Distinct) (hadmits : s.Admits m r session) :
    s.authenticate m r = (some session, s) := by
  have hfind := (SessionStore.find?_eq_some_iff h).mpr ⟨hadmits.held, rfl⟩
  unfold authenticate
  simp only [hadmits.named, SessionStore.get_of_live hfind hadmits.live]

/-- Where the request names no session of the server, none is stale. -/
theorem withoutStale_of_unnamed
    (h : ∀ session ∈ s.sessions.sessions, Credential.token? r.headers ≠ some session.id) :
    s.withoutStale m r = s := by
  have hall : (s.sessions.sessions.filter fun session => !isStale m r session) =
      s.sessions.sessions := by
    rw [List.filter_eq_self]
    intro session hsession
    unfold isStale
    rw [decide_eq_false (h session hsession)]
    rfl
  unfold withoutStale
  rw [hall]

/-- Where the request names an expired session, that one is stale and no other. -/
theorem withoutStale_of_expired (h : s.sessions.Distinct)
    (hnamed : Credential.token? r.headers = some session.id)
    (hheld : session ∈ s.sessions.sessions) (hexpired : session.isExpired m.now = true) :
    s.withoutStale m r = { s with sessions := s.sessions.without session.id } := by
  have hdropped : (s.sessions.sessions.filter fun session => !isStale m r session) =
      (s.sessions.without session.id).sessions := by
    refine List.filter_congr fun other hother => ?_
    unfold isStale
    by_cases hsame : other.id = session.id
    · have hfind := (SessionStore.find?_eq_some_iff h).mpr ⟨hheld, rfl⟩
      have hfound := (SessionStore.find?_eq_some_iff h).mpr ⟨hother, hsame⟩
      obtain rfl := Option.some.inj (hfound.symm.trans hfind)
      simp [hnamed, hexpired]
    · simp [hnamed, hsame, Ne.symm hsame]
  unfold withoutStale
  rw [hdropped]
  rfl

/-- Without a live session the layer drops at most the expired one. -/
theorem authenticate_of_nobody (h : s.sessions.Distinct)
    (hnobody : ∀ session, ¬ s.Admits m r session) :
    s.authenticate m r = (none, s.withoutStale m r) := by
  unfold authenticate
  cases htoken : Credential.token? r.headers with
  | none =>
      rw [withoutStale_of_unnamed fun session _ hnamed => by
        rw [htoken] at hnamed
        cases hnamed]
  | some token =>
      cases hfind : s.sessions.find? token with
      | none =>
          have hunnamed : ∀ session ∈ s.sessions.sessions,
              Credential.token? r.headers ≠ some session.id := by
            intro session hsession hnamed
            have hid : session.id = token := Option.some.inj (hnamed.symm.trans htoken)
            exact SessionStore.id_ne_of_find?_eq_none hfind session hsession hid
          rw [withoutStale_of_unnamed hunnamed]
          simp only [SessionStore.get_of_none hfind]
      | some found =>
          obtain ⟨hheld, rfl⟩ := (SessionStore.find?_eq_some_iff h).mp hfind
          have hexpired : found.isExpired m.now = true := by
            by_contra hlive
            exact hnobody found ⟨htoken, hheld, Bool.eq_false_iff.mpr hlive⟩
          rw [withoutStale_of_expired h htoken hheld hexpired]
          simp only [SessionStore.get_of_expired hfind hexpired]

/-- A request for those who have a session gets to its route with the session that the layer
finds. -/
theorem pass_fst_iff (hneeds : route.needsSession = true) :
    (s.pass m r).1 = .passed (.route route) e ↔
      Route.find? r.method r.path = some route ∧
        ∃ session, (s.authenticate m r).1 = some session ∧ e = .of session := by
  constructor
  · intro h
    have hplaced : ∀ layered, Router.whole.find r.method r.path = (.route route, layered) →
        layered = true := by
      intro layered hfind
      exact (Router.whole_placed.find hfind).1.trans hneeds
    unfold pass at h
    split at h
    · cases h
    · split at h
      · next hfind =>
        cases h
        cases hplaced false hfind
      · next hfind =>
        rcases hfound : s.authenticate m r with ⟨_ | session, s'⟩
        · rw [requireSession_of_nobody hfound] at h
          cases h
        · rw [requireSession_of_session hfound] at h
          cases h
          refine ⟨Route.find?_eq_some_iff.mpr ?_, session, rfl, rfl⟩
          rw [hfind, hneeds]
  · rintro ⟨hroute, session, hfound, rfl⟩
    have hpair : s.authenticate m r = (some session, (s.authenticate m r).2) := by
      rw [← hfound]
    rw [pass_of_session hroute hneeds hpair]

/-- With a live session a request is served on its route. -/
theorem handle_of_admits (h : s.Reachable) (hadmits : s.Admits m r session)
    (hroute : Route.find? r.method r.path = some route) (hneeds : route.needsSession = true) :
    s.handle m r = (s.serve m r (.of session) route).map fun (response, s) =>
      (wanted r response, s) := by
  unfold handle answer
  rw [pass_of_session hroute hneeds (authenticate_of_admits h.distinct hadmits)]
  rfl

/-- Whatever the layer lets through can be answered: no route asks in vain for an actor. -/
theorem arrive_pass_ne_noActor (later : Server) (m' : Moment) :
    later.arrive m' r (s.pass m r).1 ≠ .error .noActor := by
  intro h
  cases hpassage : (s.pass m r).1 with
  | options =>
      rw [hpassage] at h
      cases h
  | turnedAway =>
      rw [hpassage] at h
      cases h
  | passed destination e =>
      rw [hpassage] at h
      cases destination with
      | route route =>
          refine serve_ne_noActor (fun hneeds => ?_) h
          obtain ⟨-, session, -, rfl⟩ := (pass_fst_iff hneeds).mp hpassage
          rfl
      | otherMethod => cases h
      | nowhere => cases h

/-- A session that lasts from second 0 to second 60. -/
def sampleSession : Session where
  id := .ofNat 1
  actor := { id := .ofNat 11, role := .support }
  createdAt := ⟨0, 0⟩
  expiresAt := ⟨60, 0⟩

/-- A server with one session. -/
def sample : Server where
  recognise _ := none
  overflow := .stops
  trustProxy := false
  defaultRole := .support
  sessions := { ttl := 60, sessions := [sampleSession] }
  console := { data := Sample.data, outbox := .idle { maxAttempts := 1, delays := [] } .log }

/-- A second, with identifiers for a sign-in. -/
def sampleMoment (second : Int) : Moment where
  now := ⟨second, 0⟩
  recordId := .ofNat 21
  sessionId := .ofNat 1
  actorId := .ofNat 11

/-- A request for a path with the token of the session. -/
def sampleRequest (method path : String) : Request where
  method := method
  path := path
  query := ""
  headers := [("authorization", Utf8.encode ("Bearer " ++ (Uuid.ofNat 1).text))]
  body := []
  peer := none

/-- The session of the sample is started by a sign-in that names no role. -/
theorem reachable_sample : sample.Reachable := by
  let opened : Server := { sample with sessions := { ttl := 60, sessions := [] } }
  let signIn : Request := { sampleRequest "POST" "/api/session" with headers := [] }
  have hstarted : start sample.recognise .stops false .support 60 sample.console = .ok opened := rfl
  obtain ⟨response, hsignIn⟩ : ∃ response, opened.arrive (sampleMoment 0) signIn
      (.passed (.route .createSession) .none) = .ok (response, sample) := ⟨_, by rfl⟩
  exact .arrived (.started hstarted) hsignIn

theorem admits_sample (method path : String) :
    sample.Admits (sampleMoment 0) (sampleRequest method path) sampleSession where
  named := by
    have hnamed : Credential.token?
        [("authorization", Utf8.encode ("Bearer " ++ (Uuid.ofNat 1).text))] = some (.ofNat 1) := by
      decide +kernel
    exact hnamed
  held := List.mem_singleton_self _
  live := by decide

theorem not_admits_sample (method path : String) (session : Session) :
    ¬ sample.Admits (sampleMoment 60) (sampleRequest method path) session := by
  intro h
  have hlive := h.live
  rw [List.mem_singleton.mp h.held] at hlive
  exact absurd hlive (by decide)

end Server

end AdminConsole
