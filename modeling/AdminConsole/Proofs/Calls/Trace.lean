import AdminConsole.Proofs.Calls.Site
import Mathlib.Data.List.Induction

/-! # Calls and the sessions behind them

`Site.authenticated` traces every call back to the request that made it and to
the session that the request named; `Site.given_actor` says whose session that
was, and in which role: the actor of the last sign-in under the token, in the
role switched to last since then.

`Site.forget_run` says the opposite of a trace: what happens to a session that
nobody names any more is not felt by any call.
-/
namespace AdminConsole

/-! ## The actor of a token -/

namespace Event

/-- What an event makes of the actor of a token, in a store whose sessions live for `ttl` seconds:
a sign-in under the token gives it an actor, unless it fails, and a switch gives the actor another
role. -/
def give (ttl : Int) (token : Uuid) (actor? : Option Actor) : Event → Option Actor
  | signIn now id actor =>
    if id = token ∧ (now.plusSeconds? ttl).isSome then some actor else actor?
  | switchRole _ id role =>
    if id = token then actor?.map fun actor => { actor with role := role } else actor?
  | _ => actor?

/-- The actor that the events gave to a token: the one that signed in last, in the role that was
switched to last since then. -/
def given (ttl : Int) (events : List Event) (token : Uuid) : Option Actor :=
  events.foldl (give ttl token) none

theorem given_concat (ttl : Int) (events : List Event) (e : Event) (token : Uuid) :
    given ttl (events ++ [e]) token = e.give ttl token (given ttl events token) :=
  List.foldl_concat _ _ _ _

end Event

namespace Site

theorem step_ttl (s : Site) (e : Event) : (s.step e).sessions.ttl = s.sessions.ttl := by
  cases e with
  | signIn now id actor => exact SessionStore.started_ttl _ now id actor
  | switchRole now id role => exact SessionStore.switchRole_ttl _ now id role
  | request now r =>
    show (s.lookUp now r).2.ttl = _
    rcases s.lookUp_sessions now r with h | ⟨token, h⟩
    · rw [h]
    · rw [h]
      rfl
  | _ => rfl

theorem run_ttl (s : Site) (events : List Event) :
    (s.run events).sessions.ttl = s.sessions.ttl := by
  induction events generalizing s with
  | nil => rfl
  | cons e events ih => exact (ih (s.step e)).trans (s.step_ttl e)

/-- If every session has the actor that its token is known to have, it still has after an event. -/
theorem step_give {s : Site} {known : Uuid → Option Actor}
    (h : ∀ session ∈ s.sessions.sessions, known session.id = some session.actor) (e : Event) :
    ∀ session ∈ (s.step e).sessions.sessions,
      e.give s.sessions.ttl session.id (known session.id) = some session.actor := by
  intro session hs
  cases e with
  | signIn now id actor =>
    rcases SessionStore.mem_started hs with ⟨hmem, hfails⟩ | ⟨rfl, rfl, hexpiry⟩
    · have hnot : ¬ (id = session.id ∧ (now.plusSeconds? s.sessions.ttl).isSome) := by
        rintro ⟨rfl, hsome⟩
        rw [hfails rfl] at hsome
        cases hsome
      show (if _ then _ else _) = _
      rw [if_neg hnot]
      exact h session hmem
    · exact if_pos ⟨rfl, hexpiry⟩
  | switchRole now id role =>
    rcases SessionStore.mem_switchRole hs with ⟨hmem, hne⟩ | ⟨old, hmem, rfl, rfl⟩
    · exact (if_neg (Ne.symm hne)).trans (h session hmem)
    · refine (if_pos rfl).trans ?_
      show (known old.id).map _ = _
      rw [h old hmem]
      rfl
  | signOut id => exact h session (SessionStore.mem_without.mp hs).1
  | sweep now => exact h session (List.mem_filter.mp hs).1
  | request now r =>
    change session ∈ (s.lookUp now r).2.sessions at hs
    rcases s.lookUp_sessions now r with hl | ⟨token, hl⟩
    · rw [hl] at hs
      exact h session hs
    · rw [hl] at hs
      exact h session (SessionStore.mem_without.mp hs).1
  | turn _ _ => exact h session hs
  | deliver => exact h session hs
  | release => exact h session hs

/-- A session has the actor that the events gave to its token. -/
theorem given_actor (recognise : String → Option Agent) (trustProxy : Bool) (ttl : Int)
    (c : Console) (events : List Event) :
    ∀ session ∈ ((opened recognise trustProxy ttl c).run events).sessions.sessions,
      Event.given ttl events session.id = some session.actor := by
  induction events using List.reverseRecOn with
  | nil =>
    intro session hs
    cases hs
  | append_singleton events e ih =>
    intro session hs
    rw [run_concat] at hs
    have hgive := step_give ih e session hs
    rw [run_ttl] at hgive
    rw [Event.given_concat]
    exact hgive

/-! ## Where a call comes from -/

/-- The call with a number was made by one of the events: a request that named `session`, which it
found live. -/
def CalledBy (s : Site) (events : List Event) (number : Nat) (call : Call) (session : Session) :
    Prop :=
  ∃ before now r rest, events = before ++ .request now r :: rest ∧
    number = (s.run before).floor.jobs.length ∧ ((s.run before).lookUp now r).1 = some session ∧
    (s.run before).call? session r = some call

theorem CalledBy.concat {s : Site} {events : List Event} {number : Nat} {call : Call}
    {session : Session} (h : s.CalledBy events number call session) (e : Event) :
    s.CalledBy (events ++ [e]) number call session := by
  obtain ⟨before, now, r, rest, rfl, h⟩ := h
  exact ⟨before, now, r, rest ++ [e], by rw [List.append_assoc]; rfl, h⟩

/-- An event brings at most one call, and then it is a request that is authenticated. -/
theorem step_calls (s : Site) (e : Event) :
    (s.step e).floor.jobs.map Job.call = s.floor.jobs.map Job.call ∨
    ∃ now r session call, e = .request now r ∧ (s.lookUp now r).1 = some session ∧
      s.call? session r = some call ∧
      (s.step e).floor.jobs.map Job.call = s.floor.jobs.map Job.call ++ [call] := by
  have hmove : ∀ m : Move, m.call? = none →
      (s.floor.step m).jobs.map Job.call = s.floor.jobs.map Job.call := by
    intro m hm
    have hcall := (s.floor.moved m).map_call
    rwa [hm, Option.toList_none, List.append_nil] at hcall
  cases e with
  | signIn _ _ _ => exact Or.inl rfl
  | switchRole _ _ _ => exact Or.inl rfl
  | signOut _ => exact Or.inl rfl
  | sweep _ => exact Or.inl rfl
  | request now r =>
    rcases s.request_floor now r with h | ⟨session, call, hfound, hcall, h⟩
    · exact Or.inl (congrArg (fun f => f.jobs.map Job.call) h)
    · refine Or.inr ⟨now, r, session, call, rfl, hfound, hcall, ?_⟩
      exact (congrArg (fun f => f.jobs.map Job.call) h).trans List.map_append
  | turn number t => exact Or.inl (hmove _ rfl)
  | deliver => exact Or.inl (hmove _ rfl)
  | release => exact Or.inl (hmove _ rfl)

/-- **Every call comes from a request that was authenticated.** -/
theorem authenticated (recognise : String → Option Agent) (trustProxy : Bool) (ttl : Int)
    (c : Console) (events : List Event) {number : Nat} {call : Call}
    (h : (((opened recognise trustProxy ttl c).run events).floor.jobs.map Job.call)[number]? =
      some call) :
    ∃ session, (opened recognise trustProxy ttl c).CalledBy events number call session := by
  induction events using List.reverseRecOn with
  | nil => cases h
  | append_singleton events e ih =>
    rw [run_concat] at h
    rcases step_calls _ e with hsame | ⟨now, r, session, call', rfl, hfound, hcall, hnew⟩
    · rw [hsame] at h
      obtain ⟨session, hby⟩ := ih h
      exact ⟨session, hby.concat e⟩
    · rw [hnew, List.getElem?_append] at h
      split at h
      · obtain ⟨session, hby⟩ := ih h
        exact ⟨session, hby.concat _⟩
      · next hlength =>
        -- The call behind all others is the one that this request made.
        obtain rfl := List.mem_singleton.mp (List.mem_of_getElem? h)
        have hlt := (List.getElem?_eq_some_iff.mp h).1
        rw [List.length_singleton, List.length_map] at hlt
        rw [List.length_map] at hlength
        exact ⟨session, events, now, r, [], rfl, by omega, hfound, hcall⟩

end Site

/-! ## What is not felt -/

namespace Event

/-- The event is a request that names the token. -/
def Presents (token : Uuid) : Event → Prop
  | request _ r => Credential.token? r.headers = some token
  | _ => False

/-- The event switches the role of the token's session, or ends that session. -/
def revises (token : Uuid) : Event → Bool
  | switchRole _ id _ | signOut id => id = token
  | _ => false

end Event

namespace Site

variable {token : Uuid}

/-- The site without the session of a token. -/
def forget (token : Uuid) (s : Site) : Site := { s with sessions := s.sessions.without token }

theorem lookUp_forget (s : Site) (now : Instant) {r : Request}
    (h : Credential.token? r.headers ≠ some token) :
    (s.forget token).lookUp now r = ((s.lookUp now r).1, (s.lookUp now r).2.without token) := by
  unfold lookUp
  split
  · rfl
  · next id hid =>
    have hne : id ≠ token := by
      rintro rfl
      exact h hid
    exact SessionStore.get_without hne

/-- An event that does not name the token does the same without its session. -/
theorem step_forget (s : Site) {e : Event} (h : ¬ e.Presents token) :
    ((s.forget token).step e).forget token = (s.step e).forget token := by
  have hself := SessionStore.without_self s.sessions token
  cases e with
  | signIn now id actor =>
    show Site.mk _ _ _ _ = Site.mk _ _ _ _
    congr 1
    exact SessionStore.started_without s.sessions now id actor token
  | switchRole now id role =>
    show Site.mk _ _ _ _ = Site.mk _ _ _ _
    congr 1
    show ((s.sessions.without token).switchRole now id role).2.without token = _
    by_cases hid : id = token
    · subst hid
      rw [SessionStore.without_switchRole, hself]
      exact (SessionStore.without_switchRole s.sessions now id role).symm
    · rw [SessionStore.switchRole_without role hid, SessionStore.without_self]
      rfl
  | signOut id =>
    show Site.mk _ _ _ _ = Site.mk _ _ _ _
    congr 1
    show ((s.sessions.without token).remove id).2.without token = _
    rw [SessionStore.remove_without, SessionStore.without_self]
    rfl
  | sweep now =>
    show Site.mk _ _ _ _ = Site.mk _ _ _ _
    congr 1
    show ((s.sessions.without token).purge now).2.without token = _
    rw [SessionStore.purge_without, SessionStore.without_self]
    rfl
  | request now r =>
    have hlook := s.lookUp_forget now h
    show ((s.forget token).request now r).forget token = (s.request now r).forget token
    unfold request forget
    unfold forget at hlook
    rw [hlook]
    show Site.mk _ _ _ _ = Site.mk _ _ _ _
    congr 1
    exact SessionStore.without_self _ token
  | turn number t => exact congrArg (fun sessions => Site.mk _ _ sessions _) hself
  | deliver => exact congrArg (fun sessions => Site.mk _ _ sessions _) hself
  | release => exact congrArg (fun sessions => Site.mk _ _ sessions _) hself

/-- A switch or a sign-out is felt by the session of its token only. -/
theorem forget_step (s : Site) {e : Event} (h : e.revises token = true) :
    (s.step e).forget token = s.forget token := by
  cases e with
  | switchRole now id role =>
    obtain rfl : id = token := of_decide_eq_true h
    exact congrArg (fun sessions => Site.mk _ _ sessions _)
      (SessionStore.without_switchRole s.sessions now id role)
  | signOut id =>
    obtain rfl : id = token := of_decide_eq_true h
    exact congrArg (fun sessions => Site.mk _ _ sessions _)
      (SessionStore.without_self s.sessions id)
  | _ => cases h

/-- **Nobody feels what happens to a session that is not named any more.** -/
theorem forget_run {events : List Event} (h : ∀ e ∈ events, ¬ e.Presents token) {s s' : Site}
    (hs : s.forget token = s'.forget token) :
    (s.run (events.filter fun e => !e.revises token)).forget token =
      (s'.run events).forget token := by
  -- The two runs may differ in the session of the token all along, but in nothing else.
  induction events generalizing s s' with
  | nil => exact hs
  | cons e events ih =>
    have hrest : ∀ e ∈ events, ¬ e.Presents token := fun e he => h e (List.mem_cons_of_mem _ he)
    have he : ¬ e.Presents token := h e List.mem_cons_self
    rw [run_cons]
    by_cases hr : e.revises token = true
    · rw [List.filter_cons_of_neg (by simp [hr])]
      exact ih hrest (hs.trans (s'.forget_step hr).symm)
    · rw [List.filter_cons_of_pos (by simp [hr]), run_cons]
      refine ih hrest ?_
      calc (s.step e).forget token = ((s.forget token).step e).forget token :=
            (s.step_forget he).symm
        _ = ((s'.forget token).step e).forget token := by rw [hs]
        _ = (s'.step e).forget token := s'.step_forget he

/-! ## What a record says about its session -/

/-- **A record names the actor of the session that its request named.**  In any run of sign-ins,
role switches, sign-outs, sweeps, requests and steps of calls, a record in the trail goes back to a
request that named a live session; its actor is that session's actor in the role that the session
had at that moment, and this role grants what the recorded action takes.  From the moment of its
authentication the call is what it is, whatever happens later: the gate decides on that role, and
the record names that actor.  And if no later request names a token, the floor is the same as if
nobody had switched the role of its session or ended it. -/
theorem trail_names_session_actor (recognise : String → Option Agent) (trustProxy : Bool)
    (ttl : Int) (c : Console) :
    let site := opened recognise trustProxy ttl c
    (∀ events, ∀ s ∈ (site.run events).floor.trail, ∃ before now r rest session kind,
      events = before ++ .request now r :: rest ∧
      s.number = (site.run before).floor.jobs.length ∧
      Credential.token? r.headers = some session.id ∧
      ((site.run before).sessions.get now session.id).1 = some session ∧
      Event.given ttl before session.id = some session.actor ∧
      s.record.actor = session.actor ∧ ActionKind.ofName? s.record.action = some kind ∧
      kind.permission ∈ session.actor.role.grants) ∧
    (∀ events more (number : Nat) (j : Job), (site.run events).floor.jobs[number]? = some j →
      ∃ j', (site.run (events ++ more)).floor.jobs[number]? = some j' ∧ j'.call = j.call ∧
        j'.stage.Sound j.call ∧
        ∀ record, j'.stage.record? = some record → record.actor = j.call.actor) ∧
    (∀ events more token, (∀ e ∈ more, ¬ e.Presents token) →
      (site.run (events ++ more.filter fun e => !e.revises token)).floor =
        (site.run (events ++ more)).floor) := by
  intro site
  have haccounts : ∀ events, Accounted c (site.run events).floor := by
    intro events
    obtain ⟨moves, hmoves⟩ := site.run_floor events
    rw [hmoves]
    exact (Accounted.opened c).run moves
  refine ⟨fun events s hs => ?_, fun events more number j hj => ?_, fun events more token h => ?_⟩
  · obtain ⟨change, hc, hof⟩ := (haccounts events).exists_change hs
    obtain ⟨j, hj, hcall, -⟩ := ((haccounts events).mem_changes change).mp hc
    have hmade : ((site.run events).floor.jobs.map Job.call)[change.number]? = some change.call := by
      rw [List.getElem?_map, hj, Option.map_some, hcall]
    obtain ⟨session, before, now, r, rest, he, hnumber, hfound, hcalls⟩ :=
      authenticated recognise trustProxy ttl c events hmade
    obtain ⟨htoken, hmem, -⟩ := lookUp_some hfound
    have hget : ((site.run before).sessions.get now session.id).1 = some session := by
      unfold lookUp at hfound
      rwa [htoken] at hfound
    have hactor : change.call.actor = session.actor := call?_actor hcalls
    refine ⟨before, now, r, rest, session, change.call.action.kind, he, hof.number.trans hnumber,
      htoken, hget, given_actor recognise trustProxy ttl c before session hmem,
      hof.actor.trans hactor, ?_, ?_⟩
    · rw [hof.action, ActionKind.ofName?_name]
    · rw [← hactor]
      exact (haccounts events).entitled hc
  · obtain ⟨moves, hmoves⟩ := (site.run events).run_floor more
    obtain ⟨j', hj', hcall⟩ := Floor.call_run hj moves
    rw [← hmoves, ← run_append] at hj'
    have hsound := (haccounts (events ++ more)).sound j' (List.mem_of_getElem? hj')
    rw [hcall] at hsound
    refine ⟨j', hj', hcall, hsound, fun record hrecord => ?_⟩
    exact hsound.record_actor hrecord
  · have hrun : ((site.run events).run (more.filter fun e => !e.revises token)).forget token =
        ((site.run events).run more).forget token := forget_run h rfl
    have hfloor := congrArg Site.floor hrun
    rw [run_append, run_append]
    exact hfloor

end Site

end AdminConsole
