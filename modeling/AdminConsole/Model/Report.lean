import AdminConsole.Json.Value
import AdminConsole.Model.Entity
import AdminConsole.Time.Rfc3339

/-!
# Reports

What members report about each other, and what came of it. Removing the reported content does not
close a report.
-/

namespace AdminConsole

/-- What a report is about. -/
inductive ReportCategory
  | harassment
  | fakeProfile
  | spam
  | inappropriatePhotos
  | scam
  | underage
  deriving DecidableEq, Repr

namespace ReportCategory

/-- Every category. -/
def all : List ReportCategory :=
  [harassment, fakeProfile, spam, inappropriatePhotos, scam, underage]

/-- The tag by which the category is written. -/
def tag : ReportCategory → String
  | harassment => "harassment"
  | fakeProfile => "fake_profile"
  | spam => "spam"
  | inappropriatePhotos => "inappropriate_photos"
  | scam => "scam"
  | underage => "underage"

/-- The category with a given tag. -/
def ofTag? (s : String) : Option ReportCategory := all.find? (·.tag == s)

end ReportCategory

/-- The state of a report. -/
inductive ReportStatus
  | opened
  | resolved
  | dismissed
  deriving DecidableEq, Repr

namespace ReportStatus

/-- Every state. -/
def all : List ReportStatus := [opened, resolved, dismissed]

/-- The tag by which the state is written. -/
def tag : ReportStatus → String
  | opened => "open"
  | resolved => "resolved"
  | dismissed => "dismissed"

/-- The state with a given tag. -/
def ofTag? (s : String) : Option ReportStatus := all.find? (·.tag == s)

end ReportStatus

/-- One member's report about another. -/
structure Report where
  id : Uuid
  reportedMember : Uuid
  reporter : Uuid
  category : ReportCategory
  details : String
  status : ReportStatus
  contentRemoved : Bool
  createdAt : Instant
  handledBy : Option Uuid
  resolutionNote : Option String
  deriving DecidableEq

namespace Report

instance : Entity Report := ⟨Report.id⟩

/-- Nobody has closed the report. -/
def isOpen (r : Report) : Bool := r.status == .opened

/-- The report as a value. -/
def toJson (r : Report) : Json :=
  .obj [("id", .str r.id.text), ("reported_member_id", .str r.reportedMember.text),
    ("reporter_member_id", .str r.reporter.text), ("category", .str r.category.tag),
    ("details", .str r.details), ("status", .str r.status.tag),
    ("content_removed", .bool r.contentRemoved), ("created_at", .str r.createdAt.text),
    ("handled_by", .option (fun u => .str u.text) r.handledBy),
    ("resolution_note", .option .str r.resolutionNote)]

end Report

end AdminConsole
