import AdminConsole.Proofs.Server.Layer

/-! # What stands before the gate

Behind the session layer a request meets two more hurdles.  First the parts of
it are read that its route takes: the identifier in the path, the filter in the
query, the body.  Only then comes the gate.  So a request that cannot be read is
told so whatever its role may do, and one that can be read is denied whatever it
asks for in particular.  Neither leaves a trace.
-/
namespace AdminConsole

/-- The failure, if there is one. -/
def failure? {ε α : Type} : Except ε α → Option ε
  | .error e => some e
  | .ok _ => none

theorem eq_error_of_failure? {ε α : Type} {x : Except ε α} {e : ε} (h : failure? x = some e) :
    x = .error e := by
  cases x with
  | error e' => exact congrArg Except.error (Option.some.inj h)
  | ok a => cases h

theorem eq_ok_of_failure? {ε α : Type} {x : Except ε α} (h : failure? x = none) :
    ∃ a, x = .ok a := by
  cases x with
  | error e => cases h
  | ok a => exact ⟨a, rfl⟩

/-- A request that cannot be read is answered with one of four statuses. -/
theorem Rejection.status_mem (e : Rejection) : e.status ∈ [400, 413, 415, 422] := by
  cases e <;> decide

/-! ## Routes with a gate -/

/-- The permission that a page takes. -/
def PageRoute.permission : PageRoute → Permission
  | overview => .viewDashboard
  | members | member _ => .viewUsers
  | moderation => .viewModeration
  | engagement => .viewAnalytics
  | revenue => .viewRevenue
  | payments => .viewPayments
  | ads => .viewAdsMetrics
  | roles => .viewRoles
  | settings => .viewSettings
  | audit => .viewAuditLog

/-- The permission for which the gate behind a route asks, if there is a gate. -/
def Route.permission? : Route → Option Permission
  | page p => some p.permission
  | act kind _ => some kind.permission
  | changeSettings => some .manageSettings
  | _ => none

theorem Route.needsSession_of_permission? {route : Route} {p : Permission}
    (h : route.permission? = some p) : route.needsSession = true := by
  cases route with
  | health => cases h
  | createSession => cases h
  | _ => rfl

namespace Request

variable {r : Request} {a : Action} {kind : ActionKind}

/-- What is wrong with the parts of the request that a route reads. -/
def fault? (r : Request) : Route → Option Rejection
  | .page p => failure? (r.page p)
  | .act kind segment => failure? (r.action kind segment)
  | .changeSettings => failure? r.settingsChange
  | _ => none

/-- The page that is read off a request takes the permission of its route. -/
theorem page_permission {p : PageRoute} {request : PageRequest} (h : r.page p = .ok request) :
    request.permission = p.permission := by
  cases p with
  | members | moderation | audit | member =>
      obtain ⟨value, -, hread⟩ := exists_ok_of_bind h
      cases hread
      rfl
  | _ =>
      cases h
      rfl

/-- The action that is read off a request is of the kind of its route. -/
theorem actionOn_kind {id : Uuid} (h : r.actionOn id kind = .ok a) : a.kind = kind := by
  cases kind with
  | banMember | editMember | resolveReport | dismissReport | refundPayment | assignRole
  | updateSettings =>
      obtain ⟨value, -, hread⟩ := exists_ok_of_bind h
      cases hread
      rfl
  | _ =>
      cases h
      rfl

theorem action_kind {segment : String} (h : r.action kind segment = .ok a) : a.kind = kind := by
  obtain ⟨id, -, hread⟩ := exists_ok_of_bind h
  exact actionOn_kind hread

theorem settingsChange_kind (h : r.settingsChange = .ok a) : a.kind = .updateSettings := by
  obtain ⟨update, -, hread⟩ := exists_ok_of_bind h
  cases hread
  rfl

end Request

namespace Server

variable {s : Server} {m : Moment} {r : Request} {route : Route} {session : Session}
  {p : Permission} {e : Rejection} {actor : Actor}

/-! ## Requests that cannot be read -/

theorem act_error (s : Server) (m : Moment) (r : Request) (actor : Actor) (e : Rejection) :
    s.act m r actor (.error e) = (.bare e.status, s) := rfl

theorem serve_of_fault (hfault : r.fault? route = some e) :
    s.serve m r (.of session) route = .ok (.bare e.status, s) := by
  cases route with
  | page p =>
      have hread : r.page p = .error e := eq_error_of_failure? hfault
      show (s.openPage r session.actor p).map _ = _
      unfold openPage
      rw [hread]
      rfl
  | act kind segment =>
      have hread : r.action kind segment = .error e := eq_error_of_failure? hfault
      show Except.ok (s.act m r session.actor (r.action kind segment)) = _
      rw [hread, act_error]
  | changeSettings =>
      have hread : r.settingsChange = .error e := eq_error_of_failure? hfault
      show Except.ok (s.act m r session.actor r.settingsChange) = _
      rw [hread, act_error]
  | _ => cases hfault

/-! ## Requests that can be read -/

/-- An action that the role does not have is denied, and leaves the server as it is. -/
theorem act_of_denied {a : Action} (hlacks : a.kind.permission ∉ actor.role.grants) :
    s.act m r actor (.ok a) =
      (.ofDenied { required := a.kind.permission, role := actor.role }, s) := by
  let origin := Origin.ofRequest s.recognise s.trustProxy r.peer r.headers
  have hperform : Console.perform actor origin m.occasion a s.console =
      (.ok (.denied { required := a.kind.permission, role := actor.role }), s.console) := by
    rcases Console.perform_cases actor origin m.occasion a s.console with
      ⟨-, h⟩ | ⟨hhas, -⟩ | ⟨hhas, -⟩
    · exact h
    · exact absurd hhas hlacks
    · exact absurd hhas hlacks
  unfold act
  simp only [origin] at hperform
  simp only [hperform]
  rfl

theorem serve_of_denied (hgate : route.permission? = some p) (hread : r.fault? route = none)
    (hlacks : p ∉ session.actor.role.grants) :
    s.serve m r (.of session) route =
      .ok (.ofDenied { required := p, role := session.actor.role }, s) := by
  cases route with
  | page q =>
      obtain rfl : q.permission = p := Option.some.inj hgate
      obtain ⟨request, hrequest⟩ : ∃ request, r.page q = .ok request := eq_ok_of_failure? hread
      have hpermission := Request.page_permission hrequest
      rw [← hpermission] at hlacks ⊢
      show (s.openPage r session.actor q).map _ = _
      unfold openPage
      rw [hrequest]
      simp only [Console.view_of_not_mem hlacks]
      rfl
  | act kind segment =>
      obtain rfl : kind.permission = p := Option.some.inj hgate
      obtain ⟨a, ha⟩ : ∃ a, r.action kind segment = .ok a := eq_ok_of_failure? hread
      obtain rfl := Request.action_kind ha
      show Except.ok (s.act m r session.actor (r.action a.kind segment)) = _
      rw [ha, act_of_denied hlacks]
  | changeSettings =>
      obtain rfl : Permission.manageSettings = p := Option.some.inj hgate
      obtain ⟨a, ha⟩ : ∃ a, r.settingsChange = .ok a := eq_ok_of_failure? hread
      have hpermission : a.kind.permission = .manageSettings := by
        rw [Request.settingsChange_kind ha]
        rfl
      rw [← hpermission] at hlacks ⊢
      show Except.ok (s.act m r session.actor r.settingsChange) = _
      rw [ha, act_of_denied hlacks]
  | _ => cases hgate

end Server

end AdminConsole
