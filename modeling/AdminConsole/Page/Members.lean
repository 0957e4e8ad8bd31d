import AdminConsole.Model.Data
import AdminConsole.Page.Control

/-!
# Pages about members and reports

The list of members and the queue of reports may be narrowed to one state. The count of open
reports is that of the whole queue.
-/

namespace AdminConsole

/-- A list of members. -/
structure MembersPage where
  members : List Member
  total : Nat
  controls : List Control
  deriving DecidableEq

namespace MembersPage

/-- The members in a state, or all. -/
def of (actor : Actor) (status : Option AccountStatus) (d : Data) : MembersPage :=
  let shown := d.members.filter fun m => status.all fun s => m.status == s
  { members := shown, total := shown.length
    controls := AdminConsole.controls actor Button.ofMembers }

/-- The page as a value. -/
def toJson (p : MembersPage) : Json :=
  .obj [("members", .list Member.toJson p.members), ("total", .nat p.total),
    ("controls", .list Control.toJson p.controls)]

end MembersPage

/-- One member. -/
structure MemberPage where
  member : Member
  controls : List Control
  deriving DecidableEq

namespace MemberPage

/-- The page of the member with an identifier. -/
def of? (actor : Actor) (id : Uuid) (d : Data) : Option MemberPage :=
  (Entity.find? id d.members).map fun m =>
    { member := m, controls := AdminConsole.controls actor Button.ofMembers }

/-- The page as a value. -/
def toJson (p : MemberPage) : Json :=
  .obj [("member", p.member.toJson), ("controls", .list Control.toJson p.controls)]

end MemberPage

/-- The queue of reports. -/
structure ModerationPage where
  reports : List Report
  openCount : Nat
  controls : List Control
  deriving DecidableEq

namespace ModerationPage

/-- The reports in a state, or all. -/
def of (actor : Actor) (status : Option ReportStatus) (d : Data) : ModerationPage where
  reports := d.reports.filter fun r => status.all fun s => r.status == s
  openCount := d.reports.countP (·.isOpen)
  controls := AdminConsole.controls actor Button.ofReports

/-- The page as a value. -/
def toJson (p : ModerationPage) : Json :=
  .obj [("reports", .list Report.toJson p.reports), ("open_count", .nat p.openCount),
    ("controls", .list Control.toJson p.controls)]

end ModerationPage

end AdminConsole
