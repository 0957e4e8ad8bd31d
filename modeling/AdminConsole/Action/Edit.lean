import AdminConsole.Action.Refusal
import AdminConsole.Model.Entity

/-!
# Edits in place

An edit reads and writes something where it stands and may be refused on the way. A refusal takes
nothing back: what was written before it stays written. An edit of one thing is carried to the list
that holds it, where it meets the first thing with an identifier, and an edit of a part to the whole.
-/

namespace AdminConsole

/-- A program that reads and writes a `σ` and may be refused. -/
abbrev Edit (σ α : Type) := ExceptT Refusal (StateM σ) α

namespace Edit

variable {σ τ α : Type}

/-- What the edit yields, and what it leaves behind. -/
def exec (e : Edit σ α) (s : σ) : Except Refusal α × σ := e.run.run s

/-- Refuses, if there is a cause. -/
def refuseIf? (cause : Option Refusal) : Edit σ Unit :=
  match cause with
  | some r => throw r
  | none => return ()

/-- Writes a value that is mentioned. -/
def writeSome (value : Option α) (put : α → σ → σ) : Edit σ Unit :=
  match value with
  | some v => modify (put v)
  | none => return ()

/-- Edits a part of a whole. -/
def within (part : σ → τ) (put : τ → σ → σ) (e : Edit τ α) : Edit σ α := fun s =>
  let (outcome, t) := e.exec (part s)
  (outcome, put t s)

/-- Edits the first thing with an identifier, and yields it as it is then. -/
def first [Entity τ] (missing : Refusal) (target : Uuid) (e : Edit τ Unit) :
    List τ → Except Refusal τ × List τ
  | [] => (.error missing, [])
  | a :: rest =>
    if Entity.id a = target then
      let (outcome, b) := e.exec a
      (outcome.map fun _ => b, b :: rest)
    else
      let (outcome, rest) := first missing target e rest
      (outcome, a :: rest)

/-- Removes the first thing with an identifier, and yields it. -/
def takeFirst [Entity τ] (missing : Refusal) (target : Uuid) :
    List τ → Except Refusal τ × List τ
  | [] => (.error missing, [])
  | a :: rest =>
    if Entity.id a = target then (.ok a, rest)
    else
      let (outcome, rest) := takeFirst missing target rest
      (outcome, a :: rest)

end Edit

end AdminConsole
