import AdminConsole.Access.Actor

/-!
# Gates

A gate stands before a page or an action and lets only actors with one permission pass. To be
turned away is a normal outcome, not an error, and what stands behind the gate is then not even
begun.
-/

namespace AdminConsole

/-- What a gate asked for, and the role that did not have it. -/
structure AccessDenied where
  required : Permission
  role : Role
  deriving DecidableEq, Repr

namespace AccessDenied

/-- The text shown to the operator. -/
def message (d : AccessDenied) : String :=
  "The " ++ d.role.label ++ " role does not have access to this (" ++
    d.required.description.map Char.toLower ++ ")"

end AccessDenied

/-- The outcome behind a gate, or the denial. -/
inductive Gated (α : Type) where
  | allowed (a : α)
  | denied (d : AccessDenied)
  deriving DecidableEq, Repr

namespace Gated

variable {α β ε : Type}

/-- The gate was passed. -/
def isAllowed : Gated α → Bool
  | allowed _ => true
  | denied _ => false

/-- Changes the outcome and keeps a denial. -/
def map (f : α → β) : Gated α → Gated β
  | allowed a => allowed (f a)
  | denied d => denied d

/-- The outcome, with the denial as the error. -/
def toExcept : Gated α → Except AccessDenied α
  | allowed a => .ok a
  | denied d => .error d

/-- Takes a failure behind the gate out in front of it. -/
def transpose : Gated (Except ε α) → Except ε (Gated α)
  | allowed (.ok a) => .ok (allowed a)
  | allowed (.error e) => .error e
  | denied d => .ok (denied d)

end Gated

namespace Gate

/-- The check itself. -/
def check (actor : Actor) (p : Permission) : Except AccessDenied Unit :=
  if actor.can p then .ok () else .error { required := p, role := actor.role }

/-- A page behind a gate. -/
def page {α : Type} (actor : Actor) (p : Permission) (render : Unit → α) : Gated α :=
  match check actor p with
  | .ok () => .allowed (render ())
  | .error d => .denied d

/-- An action behind a gate; a denied action is not run. -/
def guarded {m : Type → Type} [Monad m] {α : Type} (actor : Actor) (p : Permission)
    (run : m α) : m (Gated α) :=
  match check actor p with
  | .ok () => Gated.allowed <$> run
  | .error d => pure (.denied d)

end Gate

/-- A button on a page: the action behind it, what it takes, and whether the actor has that. -/
structure Control where
  action : String
  permission : Permission
  enabled : Bool
  deriving DecidableEq, Repr

/-- The button as the actor sees it. -/
def Control.of (actor : Actor) (action : String) (p : Permission) : Control :=
  { action := action, permission := p, enabled := actor.can p }

end AdminConsole
