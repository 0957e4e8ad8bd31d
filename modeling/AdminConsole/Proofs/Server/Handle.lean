import AdminConsole.Proofs.Calls.Site
import AdminConsole.Proofs.List.Failure
import AdminConsole.Proofs.Server.Routes

/-! # The server and the site

What the server makes of a request for an action, without anybody else around,
is what the site makes of it: the request is authenticated, and its call takes
its steps one after the other.
-/
namespace AdminConsole

namespace Server

variable {s s' : Server} {m : Moment} {r : Request} {a : Action} {route : Route} {session : Session}

/-! ## How far a request gets -/

theorem requireSession_of_session {destination : Destination}
    (hfound : s.authenticate m r = (some session, s')) :
    s.requireSession m r destination = (.passed destination (.of session), s') := by
  unfold requireSession
  rw [hfound]

theorem requireSession_of_nobody {destination : Destination}
    (hfound : s.authenticate m r = (none, s')) :
    s.requireSession m r destination = (.turnedAway, s') := by
  unfold requireSession
  rw [hfound]

/-- The session layer stands before a route for those who have a session. -/
theorem pass_layered (h : Route.find? r.method r.path = some route)
    (hneeds : route.needsSession = true) :
    s.pass m r = s.requireSession m r (.route route) := by
  have hmethod : ¬ (r.method == "OPTIONS") = true := by
    rw [beq_iff_eq]
    exact Route.method_ne_of_find? h
  unfold pass
  rw [if_neg hmethod, Route.find?_eq_some_iff.mp h, hneeds]

/-- A request for an open route gets to it as it is. -/
theorem pass_open (h : Route.find? r.method r.path = some route)
    (hopen : route.needsSession = false) :
    s.pass m r = (.passed (.route route) .none, s) := by
  have hmethod : ¬ (r.method == "OPTIONS") = true := by
    rw [beq_iff_eq]
    exact Route.method_ne_of_find? h
  unfold pass
  rw [if_neg hmethod, Route.find?_eq_some_iff.mp h, hopen]

/-- What an open route makes of a request is what the server makes of it. -/
theorem handle_open (h : Route.find? r.method r.path = some route)
    (hopen : route.needsSession = false) :
    s.handle m r = (s.serve m r .none route).map fun (response, s) => (wanted r response, s) := by
  unfold handle answer
  rw [pass_open h hopen]
  rfl

/-- With a live session a request gets to its route. -/
theorem pass_of_session (h : Route.find? r.method r.path = some route)
    (hneeds : route.needsSession = true) (hfound : s.authenticate m r = (some session, s')) :
    s.pass m r = (.passed (.route route) (.of session), s') := by
  rw [pass_layered h hneeds, requireSession_of_session hfound]

/-- Without one it is turned away. -/
theorem pass_of_nobody (h : Route.find? r.method r.path = some route)
    (hneeds : route.needsSession = true) (hfound : s.authenticate m r = (none, s')) :
    s.pass m r = (.turnedAway, s') := by
  rw [pass_layered h hneeds, requireSession_of_nobody hfound]

/-! ## Requests for an action -/

/-- A request that leads to an action has a route for those who have a session, and performs the
action with the actor of the session. -/
theorem serve_asked (h : r.asked? = some a) : ∃ route,
    Route.find? r.method r.path = some route ∧ route.needsSession = true ∧
      ∀ (s : Server) session,
        s.serve m r (.of session) route = .ok (s.act m r session.actor (.ok a)) := by
  unfold Request.asked? at h
  split at h
  · next kind segment hroute =>
    refine ⟨_, hroute, rfl, fun s session => ?_⟩
    have hread := toOption_eq_some_iff.mp h
    rw [← hread]
    rfl
  · next hroute =>
    refine ⟨_, hroute, rfl, fun s session => ?_⟩
    have hread := toOption_eq_some_iff.mp h
    rw [← hread]
    rfl
  · cases h

/-- A request that leads to an action is first authenticated, and then performs it. -/
theorem answer_asked (h : r.asked? = some a) :
    ∃ response, s.answer m r = .ok (response, match s.authenticate m r with
      | (none, s) => s
      | (some session, s) => (s.act m r session.actor (.ok a)).2) := by
  obtain ⟨route, hroute, hneeds, hserve⟩ := serve_asked (m := m) h
  unfold answer
  rcases hfound : s.authenticate m r with ⟨_ | session, s'⟩
  · rw [pass_of_nobody hroute hneeds hfound]
    exact ⟨_, rfl⟩
  · rw [pass_of_session hroute hneeds hfound]
    exact ⟨_, hserve s' session⟩

/-- The moves of a request that nobody interrupts. -/
def wholeRequest (m : Moment) (r : Request) : List Event :=
  [.request m.now r, .turn 0 .check, .turn 0 .spawn, .turn 0 (.mutate m.now),
    .turn 0 (.submit m.occasion), .turn 0 .reply]

/-- The site that has the server's sessions and its console, and no calls. -/
def site (s : Server) : Site := ⟨s.recognise, s.trustProxy, s.sessions, Floor.opened s.console⟩

theorem authenticate_eq (s : Server) (m : Moment) (r : Request) : s.authenticate m r =
    ((s.site.lookUp m.now r).1, { s with sessions := (s.site.lookUp m.now r).2 }) := by
  unfold authenticate Site.lookUp
  cases Credential.token? r.headers <;> rfl

/-- **What the server makes of a request for an action is what the site makes of it**, when nobody
interrupts the request. -/
theorem handle_eq_run (h : r.asked? = some a) :
    ∃ response, s.handle m r = .ok (response, { s with
      sessions := (s.site.run (wholeRequest m r)).sessions
      console := (s.site.run (wholeRequest m r)).floor.console }) := by
  obtain ⟨response, hanswer⟩ := s.answer_asked (m := m) h
  unfold handle
  rw [hanswer, authenticate_eq]
  refine ⟨_, congrArg Except.ok (Prod.ext rfl ?_)⟩
  have hrun : s.site.run (wholeRequest m r) = {
      s.site.request m.now r with
      floor := (s.site.request m.now r).floor.run [.turn 0 .check, .turn 0 .spawn,
        .turn 0 (.mutate m.now), .turn 0 (.submit m.occasion), .turn 0 .reply] } := rfl
  rw [hrun]
  unfold Site.request
  cases hfound : (s.site.lookUp m.now r).1 with
  | none => rfl
  | some session =>
    let call : Call := {
      actor := session.actor
      origin := Origin.ofRequest s.recognise s.trustProxy r.peer r.headers
      action := a }
    have hcall : s.site.call? session r = some call := by
      unfold Site.call?
      rw [h]
      rfl
    obtain ⟨stage, hnewest⟩ := (Floor.opened s.console).run_alone call m.occasion
    rw [Option.bind_some, hcall]
    exact congrArg (fun console => ({ s with
      sessions := (s.site.lookUp m.now r).2
      console := console } : Server)) hnewest.console.symm

end Server

end AdminConsole
