import AdminConsole.Action.Edit
import AdminConsole.Model.Data

/-!
# Editing what the data lists

Five sections of the data list things with identifiers. Each is a `Listing`; to edit or to remove a
thing is the same for all of them.
-/

namespace AdminConsole

/-- The thing that an action was about. -/
inductive Affected
  | member (m : Member)
  | report (r : Report)
  | payment (p : Payment)
  | campaign (c : Campaign)
  | operator (t : TeamMember)
  | settings (s : Settings)
  deriving DecidableEq

/-- The thing as a value. -/
def Affected.toJson : Affected → Json
  | member m => m.toJson
  | report r => r.toJson
  | payment p => p.toJson
  | campaign c => c.toJson
  | operator t => t.toJson
  | settings s => s.toJson

/-- What an action that was performed yields: the thing acted on as it is then (a deleted one as it
was), and the target that the action's record names. -/
structure Performed where
  result : Affected
  target : String
  deriving DecidableEq

/-- A section of the data that lists things with identifiers. -/
structure Listing (α : Type) [Entity α] where
  items : Data → List α
  put : List α → Data → Data
  /-- The refusal when there is no thing with an identifier. -/
  missing : Refusal
  affected : α → Affected
  items_put : ∀ xs d, items (put xs d) = xs := by intros; rfl
  put_items : ∀ d, put (items d) d = d := by intros; rfl

namespace Listing

/-- The members. -/
def members : Listing Member where
  items := Data.members
  put xs d := { d with members := xs }
  missing := .noMember
  affected := .member

/-- The reports. -/
def reports : Listing Report where
  items := Data.reports
  put xs d := { d with reports := xs }
  missing := .noReport
  affected := .report

/-- The payments. -/
def payments : Listing Payment where
  items := Data.payments
  put xs d := { d with payments := xs }
  missing := .noPayment
  affected := .payment

/-- The campaigns. -/
def campaigns : Listing Campaign where
  items := Data.campaigns
  put xs d := { d with campaigns := xs }
  missing := .noCampaign
  affected := .campaign

/-- The admin team. -/
def team : Listing TeamMember where
  items := Data.team
  put xs d := { d with team := xs }
  missing := .noOperator
  affected := .operator

variable {α : Type} [Entity α]

/-- Edits the first thing with an identifier. -/
def edit (l : Listing α) (target : Uuid) (e : Edit α Unit) : Edit Data Performed := do
  let a ← Edit.within l.items l.put (Edit.first l.missing target e)
  return { result := l.affected a, target := target.text }

/-- Removes the first thing with an identifier. -/
def remove (l : Listing α) (target : Uuid) : Edit Data Performed := do
  let a ← Edit.within l.items l.put (Edit.takeFirst l.missing target)
  return { result := l.affected a, target := target.text }

end Listing

end AdminConsole
