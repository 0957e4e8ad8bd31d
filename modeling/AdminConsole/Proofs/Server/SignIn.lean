import AdminConsole.Proofs.Server.Layer
import AdminConsole.Proofs.Session.Credential

/-! # Signing in again

A sign-in and a switch of the role are answered with cookies.  What they hold
comes back: the token by either way that a client may send it
(`Credential.token?`), and the role at the next sign-in that names none.
-/
namespace AdminConsole

/-- A session whose role was switched is held, with the role that it was given. -/
theorem SessionStore.held_of_switchRole {store store' : SessionStore} {now : Instant} {id : Uuid}
    {role : Role} {updated : Session} (h : store.switchRole now id role = (some updated, store')) :
    updated ∈ store'.sessions ∧ updated.actor.role = role := by
  unfold switchRole at h
  split at h
  · cases h
  · next s hfound =>
    split at h
    · cases h
    · cases h
      exact ⟨List.mem_map.mpr ⟨s, find?_mem hfound, if_pos (find?_id hfound)⟩, rfl⟩

namespace Server

variable {s s' : Server} {m : Moment} {r : Request} {response : Response} {route : Route}
  {role : Role}

/-- The request is answered by starting a session with the role, unless the session would end beyond
the calendar. -/
structure SignsIn (s : Server) (m : Moment) (r : Request) (role : Role) : Prop where
  started : ∀ expiry ∈ m.now.plusSeconds? s.sessions.ttl, ∃ response s',
    s.handle m r = .ok (response, s') ∧ response.status = 201 ∧
      (⟨m.sessionId, ⟨m.actorId, role⟩, m.now, expiry⟩ : Session) ∈ s'.sessions.sessions
  stopped : m.now.plusSeconds? s.sessions.ttl = none → s.handle m r = .error .dateOutOfRange

theorem wanted_status (r : Request) (response : Response) :
    (wanted r response).status = response.status := by
  unfold wanted
  split <;> rfl

theorem wanted_setCookies (r : Request) (response : Response) :
    (wanted r response).setCookies = response.setCookies := by
  unfold wanted
  split <;> rfl

/-! ## What a sign-in asks for -/

/-- The role that a sign-in gives, by what the body asks for and what the cookies remember. -/
theorem signsIn_of_resolve (hroute : Route.find? r.method r.path = some .createSession)
    {body : Option (Option String)} (hbody : r.optionalBody Body.signIn = .ok body)
    (hrole : Role.resolve (body.join <|>
      (Cookies.ofHeaders r.headers).value? Credential.roleCookie) s.defaultRole = role) :
    s.SignsIn m r role := by
  have hserve : s.serve m r .none .createSession = s.createSession m r := rfl
  have hhandle := handle_open (s := s) (m := m) hroute rfl
  rw [hserve] at hhandle
  unfold createSession at hhandle
  rw [hbody] at hhandle
  dsimp only at hhandle
  rw [hrole] at hhandle
  unfold SessionStore.create at hhandle
  constructor
  · intro expiry hexpiry
    rw [Option.mem_def.mp hexpiry] at hhandle
    refine ⟨_, _, hhandle, wanted_status r _, ?_⟩
    exact List.mem_append_right _ (List.mem_singleton_self _)
  · intro hexpiry
    rw [hexpiry] at hhandle
    exact hhandle

/-- Without a role in the body the last role cookie decides, if its value is the tag of a role. -/
theorem signsIn_of_remembered (hroute : Route.find? r.method r.path = some .createSession)
    (hsends : Cookies.Sends r.headers Credential.roleCookie role.tag)
    {body : Option (Option String)} (hbody : r.optionalBody Body.signIn = .ok body)
    (hasked : body.join = none) : s.SignsIn m r role := by
  refine signsIn_of_resolve hroute hbody ?_
  rw [hasked, Cookies.value?_eq_some_iff.mpr hsends]
  show ((some role.tag).bind Role.ofTag?).getD s.defaultRole = role
  rw [Option.bind_some, Role.ofTag?_tag, Option.getD_some]

/-- A role in the body that nobody knows gives way to the default, and not to the cookies. -/
theorem signsIn_of_unknown (hroute : Route.find? r.method r.path = some .createSession)
    {body : Option (Option String)} (hbody : r.optionalBody Body.signIn = .ok body) {tag : String}
    (hasked : body.join = some tag) (hunknown : ∀ known : Role, tag ≠ known.tag) :
    s.SignsIn m r s.defaultRole := by
  have hnone : Role.ofTag? tag = none :=
    Option.eq_none_iff_forall_ne_some.mpr fun known h =>
      hunknown known (Role.ofTag?_eq_some_iff.mp h)
  refine signsIn_of_resolve hroute hbody ?_
  rw [hasked]
  show ((some tag).bind Role.ofTag?).getD s.defaultRole = s.defaultRole
  rw [Option.bind_some, hnone, Option.getD_none]

/-! ## What is issued -/

/-- The cookies with which a sign-in and a switch of the role are answered. -/
def issued (route : Route) (session : Session) : List SetCookie :=
  (if route = .createSession then [.put Credential.sessionCookie session.id.text] else []) ++
    [.put Credential.roleCookie session.actor.role.tag]

theorem plain_of_issued {session : Session} {name value : String}
    (h : SetCookie.put name value ∈ issued route session) :
    IsPlain name ∧ IsPlain value ∧ name ≠ "" := by
  rcases List.mem_append.mp h with htoken | hrole
  · split at htoken
    · cases List.mem_singleton.mp htoken
      exact ⟨by decide, isPlain_text session.id, by decide⟩
    · cases htoken
  · cases List.mem_singleton.mp hrole
    exact ⟨by decide, isPlain_tag session.actor.role, by decide⟩

theorem issued_of_createSession (h : s.createSession m r = .ok (response, s'))
    (hstatus : response.status = 201) : ∃ session ∈ s'.sessions.sessions,
      response.setCookies = issued .createSession session := by
  unfold createSession at h
  split at h
  · next rejection _ =>
    cases h
    cases rejection <;> cases hstatus
  · simp only [SessionStore.create] at h
    cases hexpiry : m.now.plusSeconds? s.sessions.ttl with
    | none =>
      rw [hexpiry] at h
      cases h
    | some expiry =>
      rw [hexpiry] at h
      cases h
      exact ⟨_, List.mem_append_right _ (List.mem_singleton_self _), rfl⟩

theorem issued_of_switchRole {session : Session} (h : s.switchRole m r session = (response, s'))
    (hstatus : response.status = 200) : ∃ session ∈ s'.sessions.sessions,
      response.setCookies = issued .switchRole session := by
  unfold switchRole at h
  split at h
  · next rejection _ =>
    cases h
    cases rejection <;> cases hstatus
  · simp only [] at h
    split at h
    · cases h
      cases hstatus
    · next updated sessions hswitch =>
      cases h
      obtain ⟨hheld, hrole⟩ := SessionStore.held_of_switchRole hswitch
      refine ⟨updated, hheld, ?_⟩
      rw [issued, hrole]
      rfl

/-- A sign-in or a switch that succeeds has a session to show for it. -/
theorem issued_of_handle (hanswer : s.handle m r = .ok (response, s'))
    (hroute : Route.find? r.method r.path = some route)
    (hissued : route = .createSession ∧ response.status = 201 ∨
      route = .switchRole ∧ response.status = 200) :
    ∃ session ∈ s'.sessions.sessions, response.setCookies = issued route session := by
  rcases hissued with ⟨rfl, hstatus⟩ | ⟨rfl, hstatus⟩
  · rw [handle_open hroute rfl] at hanswer
    obtain ⟨⟨whole, after⟩, hserve, hsent⟩ := exists_ok_of_map hanswer
    cases hsent
    rw [wanted_status] at hstatus
    rw [wanted_setCookies]
    exact issued_of_createSession hserve hstatus
  · obtain ⟨⟨whole, after⟩, hwhole, hsent⟩ := exists_ok_of_map hanswer
    cases hsent
    rw [wanted_status] at hstatus
    rw [wanted_setCookies]
    unfold answer at hwhole
    rcases hfound : s.authenticate m r with ⟨_ | session, looked⟩
    · rw [pass_of_nobody hroute rfl hfound] at hwhole
      cases hwhole
      cases hstatus
    · rw [pass_of_session hroute rfl hfound] at hwhole
      exact issued_of_switchRole (Except.ok.inj hwhole) hstatus

end Server

end AdminConsole
