import AdminConsole.Server.Route

/-!
# Routers

A router is put together from tables of routes. The session layer is put around a router as a whole:
it then stands before every route that the router has, before its answer to a method that a path does
not take, and before its answer to a path that it does not have. What is merged with the router later
stays outside.
-/

namespace AdminConsole

/-- A route, and whether the session layer stands before it. -/
structure Endpoint where
  route : Route
  layered : Bool
  deriving DecidableEq, Repr

/-- What a router has on one path. -/
structure Mount where
  methods : List (String × Endpoint)
  /-- The session layer stands before the answer to any other method. -/
  layered : Bool

/-- What a router has on each path. -/
structure Router where
  mount? : List String → Option Mount
  /-- The session layer stands before the answer to a path on which there is nothing. -/
  layered : Bool

namespace Mount

/-- A path of a table, before which nothing stands. -/
def ofRoutes : List (String × Route) → Option Mount
  | [] => none
  | routes => some {
      methods := routes.map fun (method, route) => (method, { route := route, layered := false })
      layered := false }

/-- Puts the session layer around all that is on a path. -/
def layer (m : Mount) : Mount where
  methods := m.methods.map fun (method, e) => (method, { e with layered := true })
  layered := true

/-- The methods of both; any other method is answered by the second. -/
def merge (a b : Mount) : Mount where
  methods := a.methods ++ b.methods
  layered := b.layered

end Mount

namespace Router

/-- The router of a table, before which nothing stands. -/
def ofTable (table : Route.Table) : Router where
  mount? path := Mount.ofRoutes (table path)
  layered := false

/-- The router of a table whose paths must not end with an empty segment. -/
def ofStrictTable (table : Route.Table) : Router where
  mount? path := if path.getLast? = some "" then none else Mount.ofRoutes (table path)
  layered := false

/-- Mounts a router under a first segment. -/
def nest (segment : String) (r : Router) : Router where
  mount?
    | first :: rest => if first = segment then r.mount? rest else none
    | [] => none
  layered := r.layered

/-- Two routers beside each other. A path that neither has is answered by the second. -/
def merge (a b : Router) : Router where
  mount? path :=
    match a.mount? path, b.mount? path with
    | some x, some y => some (x.merge y)
    | some x, none => some x
    | none, y => y
  layered := b.layered

/-- Puts the session layer around a router. -/
def layer (r : Router) : Router where
  mount? path := (r.mount? path).map Mount.layer
  layered := true

/-- All routes: those of sessions and of the console are behind the session layer, and the health
check and the sign-in beside it. -/
def whole : Router :=
  (ofTable Route.onOpen).merge
    ((ofTable Route.onSession).merge ((ofStrictTable Route.onConsole).nest "api")).layer

end Router

/-- Where a request leads. -/
inductive Destination
  | route (r : Route)
  /-- The path takes other methods. -/
  | otherMethod
  /-- There is nothing on the path. -/
  | nowhere
  deriving DecidableEq, Repr

/-- Where a method on a path leads, and whether the session layer stands before that. -/
def Router.find (r : Router) (method path : String) : Destination × Bool :=
  match r.mount? (Route.segments path) with
  | none => (.nowhere, r.layered)
  | some mount =>
    match mount.methods.lookup (Route.servingMethod method) with
    | some e => (.route e.route, e.layered)
    | none => (.otherMethod, mount.layered)

/-- The route to which a method on a path leads, if any. -/
def Route.find? (method path : String) : Option Route :=
  match (Router.whole.find method path).1 with
  | .route route => some route
  | _ => none

end AdminConsole
