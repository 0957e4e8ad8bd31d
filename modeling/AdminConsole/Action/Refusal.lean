import AdminConsole.Access.Role

/-!
# Why something cannot be done

`Refusal` lists the causes for which the console refuses an allowed request. Towards the outside a
refusal is a `ConsoleError` of one of four kinds, with a status and a message.
-/

namespace AdminConsole

/-- An error as it is shown to the operator. -/
inductive ConsoleError
  /-- There is no such thing; `what` names it. -/
  | notFound (what : String)
  /-- The thing is in a state that does not allow it. -/
  | conflict (text : String)
  /-- The request makes no sense by itself. -/
  | validation (text : String)
  /-- The program failed. -/
  | internal (text : String)
  deriving DecidableEq, Repr

namespace ConsoleError

/-- The name of the kind of error. -/
def kind : ConsoleError → String
  | notFound _ => "not_found"
  | conflict _ => "conflict"
  | validation _ => "validation"
  | internal _ => "internal"

/-- The wording; of a failure of the program nothing is told. -/
def message : ConsoleError → String
  | notFound what => what ++ " not found"
  | conflict text => text
  | validation text => "Validation failed: " ++ text
  | internal _ => "Internal server error"

/-- The status of an answer that reports the error. -/
def status : ConsoleError → Nat
  | notFound _ => 404
  | conflict _ => 409
  | validation _ => 422
  | internal _ => 500

end ConsoleError

/-- Why the console refuses to do something. -/
inductive Refusal
  | noMember
  | noReport
  | noPayment
  | noCampaign
  | noOperator
  | alreadyBanned
  | notBanned
  | alreadyVerified
  | reportClosed
  | contentRemoved
  | alreadyRefunded
  | alreadyPaused
  | alreadyRunning
  | alreadyHasRole (name : String) (role : Role)
  | lastOwner
  | nothingToUpdate
  | badDisplayName
  | badEmail
  | badCity
  | badMinimumAge
  | badDailyLikes
  | badFlagThreshold
  | badSupportEmail
  deriving DecidableEq, Repr

namespace Refusal

/-- The error that reports the refusal. -/
def error : Refusal → ConsoleError
  | noMember => .notFound "Member"
  | noReport => .notFound "Report"
  | noPayment => .notFound "Payment"
  | noCampaign => .notFound "Campaign"
  | noOperator => .notFound "Team member"
  | alreadyBanned => .conflict "Member is already banned"
  | notBanned => .conflict "Member is not banned"
  | alreadyVerified => .conflict "Member is already verified"
  | reportClosed => .conflict "Report is already closed"
  | contentRemoved => .conflict "Content was already removed"
  | alreadyRefunded => .conflict "Payment was already refunded"
  | alreadyPaused => .conflict "Campaign is already paused"
  | alreadyRunning => .conflict "Campaign is already running"
  | alreadyHasRole name role => .conflict (name ++ " already has the " ++ role.label ++ " role")
  | lastOwner => .validation "The last owner cannot be given another role"
  | nothingToUpdate => .validation "Nothing to update"
  | badDisplayName => .validation "Display name must be 1-50 characters"
  | badEmail => .validation "Email address is invalid"
  | badCity => .validation "City cannot be empty"
  | badMinimumAge => .validation "Minimum age must be between 18 and 99"
  | badDailyLikes => .validation "Daily like limit must be positive"
  | badFlagThreshold => .validation "Auto-flag threshold must be positive"
  | badSupportEmail => .validation "Support email is invalid"

end Refusal

end AdminConsole
