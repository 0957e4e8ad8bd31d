import AdminConsole.Access.Gate
import AdminConsole.Action.Refusal
import AdminConsole.Http.Message

/-!
# Answers of the console

How outcomes are answered: what was allowed with status 200, a denial with 403 and a placeholder
that names what was missing, an error with the status of its kind.
-/

namespace AdminConsole

/-- The placeholder that stands for what was denied. -/
def AccessDenied.toJson (d : AccessDenied) : Json :=
  .obj [("error", .str "access_denied"), ("message", .str d.message),
    ("required", .str d.required.tag), ("role", .str d.role.tag)]

/-- An error as a value. -/
def ConsoleError.toJson (e : ConsoleError) : Json :=
  .obj [("error", .str e.kind), ("message", .str e.message)]

namespace Response

/-- The answer to a request without a live session. -/
def signInRequired : Response :=
  .json 401 (.obj [("error", .str "unauthenticated"), ("message", .str "Sign in required")])

/-- The answer that reports a denial. -/
def ofDenied (d : AccessDenied) : Response := .json 403 d.toJson

/-- The answer that reports an error. -/
def ofError (e : ConsoleError) : Response := .json e.status e.toJson

/-- The answer with what stands behind a gate. -/
def ofGated : Gated Json → Response
  | .allowed body => .json 200 body
  | .denied d => ofDenied d

/-- The answer with what was done or shown behind a gate, unless it was refused. -/
def ofOutcome {α : Type} (toJson : α → Json) : Except Refusal (Gated α) → Response
  | .ok gated => ofGated (gated.map toJson)
  | .error e => ofError e.error

end Response

end AdminConsole
