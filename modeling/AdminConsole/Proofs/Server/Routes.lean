import AdminConsole.Server.Router

/-! # What a router has

A property of all methods on all paths of a router goes through every way of
putting routers together.  For the router of the server it says which routes
stand behind the session layer: all but the health check and the sign-in, and
this although the sign-in shares its path with two routes of a session.
-/
namespace AdminConsole

/-- Whether a route is for those who have a session. -/
def Route.needsSession : Route → Bool
  | .health => false
  | .createSession => false
  | _ => true

/-- A property of every method on a path. -/
def Mount.All (P : String → Endpoint → Prop) (m : Mount) : Prop :=
  ∀ entry ∈ m.methods, P entry.1 entry.2

/-- A property of every method on every path. -/
def Router.All (P : String → Endpoint → Prop) (r : Router) : Prop :=
  ∀ path m, r.mount? path = some m → m.All P

variable {P Q : String → Endpoint → Prop}

namespace Mount.All

theorem ofRoutes {routes : List (String × Route)} {m : Mount}
    (h : ∀ entry ∈ routes, P entry.1 { route := entry.2, layered := false })
    (hm : ofRoutes routes = some m) : m.All P := by
  cases routes with
  | nil => cases hm
  | cons first rest =>
      obtain rfl := Option.some.inj hm
      intro entry hentry
      obtain ⟨source, hsource, rfl⟩ := List.mem_map.mp hentry
      exact h source hsource

theorem merge {a b : Mount} (ha : a.All P) (hb : b.All P) : (a.merge b).All P := by
  intro entry hentry
  rcases List.mem_append.mp hentry with hin | hin
  · exact ha entry hin
  · exact hb entry hin

theorem layer {m : Mount} (h : m.All fun method e => P method { e with layered := true }) :
    m.layer.All P := by
  intro entry hentry
  obtain ⟨source, hsource, rfl⟩ := List.mem_map.mp hentry
  exact h source hsource

end Mount.All

namespace Router.All

variable {a b r : Router} {table : Route.Table}

theorem ofTable
    (h : ∀ path, ∀ entry ∈ table path, P entry.1 { route := entry.2, layered := false }) :
    (ofTable table).All P := by
  intro path m hm
  exact Mount.All.ofRoutes (h path) hm

theorem ofStrictTable
    (h : ∀ path, ∀ entry ∈ table path, P entry.1 { route := entry.2, layered := false }) :
    (ofStrictTable table).All P := by
  intro path m hm
  have hopen : (if path.getLast? = some "" then none else Mount.ofRoutes (table path)) = some m :=
    hm
  by_cases hslash : path.getLast? = some ""
  · rw [if_pos hslash] at hopen
    cases hopen
  · rw [if_neg hslash] at hopen
    exact Mount.All.ofRoutes (h path) hopen

theorem nest {segment : String} (h : r.All P) : (r.nest segment).All P := by
  intro path m hm
  cases path with
  | nil => cases hm
  | cons first rest =>
      have hunder : (if first = segment then r.mount? rest else none) = some m := hm
      by_cases hfirst : first = segment
      · rw [if_pos hfirst] at hunder
        exact h rest m hunder
      · rw [if_neg hfirst] at hunder
        cases hunder

theorem merge (ha : a.All P) (hb : b.All P) : (a.merge b).All P := by
  intro path m hm
  simp only [Router.merge] at hm
  split at hm
  · next hx hy =>
    obtain rfl := Option.some.inj hm
    exact (ha path _ hx).merge (hb path _ hy)
  · next hx _ =>
    obtain rfl := Option.some.inj hm
    exact ha path _ hx
  · exact hb path m hm

theorem layer (h : r.All fun method e => P method { e with layered := true }) :
    r.layer.All P := by
  intro path m hm
  obtain ⟨inner, hinner, rfl⟩ := Option.map_eq_some_iff.mp hm
  exact (h path inner hinner).layer

/-- What a request finds has the property. -/
theorem find {method path : String} {route : Route} {layered : Bool} (h : r.All P)
    (hfind : r.find method path = (.route route, layered)) :
    P (Route.servingMethod method) { route := route, layered := layered } := by
  unfold Router.find at hfind
  split at hfind
  · cases hfind
  · next m hm =>
    split at hfind
    · next e he =>
      cases hfind
      obtain ⟨pre, post, hmethods, -⟩ := List.lookup_eq_some_iff.mp he
      apply h _ m hm (Route.servingMethod method, e)
      rw [hmethods]
      exact List.mem_append_right pre List.mem_cons_self
    · cases hfind

end Router.All

/-! ## The router of the server -/

/-- What is true of each endpoint: the session layer stands before it exactly if it is for those who
have a session, and it does not take the method that asks for options. -/
def Endpoint.IsPlaced (method : String) (e : Endpoint) : Prop :=
  e.layered = e.route.needsSession ∧ method ≠ "OPTIONS"

namespace Router

theorem onOpen_placed (path : List String) : ∀ entry ∈ Route.onOpen path,
    Endpoint.IsPlaced entry.1 { route := entry.2, layered := false } := by
  unfold Route.onOpen
  split <;> simp [Endpoint.IsPlaced, Route.needsSession]

theorem onSession_placed (path : List String) : ∀ entry ∈ Route.onSession path,
    Endpoint.IsPlaced entry.1 { route := entry.2, layered := true } := by
  unfold Route.onSession
  split <;> simp [Endpoint.IsPlaced, Route.needsSession]

theorem onConsole_placed (path : List String) : ∀ entry ∈ Route.onConsole path,
    Endpoint.IsPlaced entry.1 { route := entry.2, layered := true } := by
  unfold Route.onConsole
  split <;> simp [Endpoint.IsPlaced, Route.needsSession]

theorem whole_placed : whole.All Endpoint.IsPlaced := by
  refine All.merge (All.ofTable onOpen_placed) (All.layer (All.merge (All.ofTable ?_)
    (All.nest (All.ofStrictTable ?_))))
  · exact onSession_placed
  · exact onConsole_placed

end Router

namespace Route

variable {method path : String} {route : Route}

/-- **The session layer stands before a route exactly if the route is for those who have a
session.** -/
theorem find?_eq_some_iff : find? method path = some route ↔
    Router.whole.find method path = (.route route, route.needsSession) := by
  unfold find?
  constructor
  · intro h
    split at h
    · next found hfound =>
      obtain rfl := Option.some.inj h
      rcases hwhole : Router.whole.find method path with ⟨destination, layered⟩
      rw [hwhole] at hfound
      cases hfound
      have hlayered : layered = found.needsSession := (Router.whole_placed.find hwhole).1
      rw [hlayered]
    · cases h
  · intro h
    rw [h]

/-- No route takes the method that asks for options. -/
theorem method_ne_of_find? (h : find? method path = some route) : method ≠ "OPTIONS" := by
  rintro rfl
  have hserving : servingMethod "OPTIONS" = "OPTIONS" := by decide
  exact (Router.whole_placed.find (find?_eq_some_iff.mp h)).2 hserving

end Route

end AdminConsole
