/-!
# Conditions that stop the program

Most failures are answers. The few listed here are not: the program gives up on the request.
-/

namespace AdminConsole

/-- Why the program stops instead of answering. -/
inductive Abort
  /-- A span of time too long to be held. -/
  | spanOutOfRange
  /-- A date beyond the calendar. -/
  | dateOutOfRange
  /-- A quotient that does not fit into 64 bits. -/
  | quotientOutOfRange
  /-- A sum or a difference that does not fit into its word. -/
  | sumOutOfRange
  /-- The actor of a request was asked for where no session is required. -/
  | noActor
  /-- The audit channel failed beyond repair. -/
  | channelDied
  deriving DecidableEq, Repr

namespace Abort

/-- The wording of the condition. -/
def message : Abort → String
  | spanOutOfRange => "span of time out of range"
  | dateOutOfRange => "date out of range"
  | quotientOutOfRange => "quotient out of range"
  | sumOutOfRange => "sum out of range"
  | noActor =>
    "PermissionContext requested outside its provider: " ++
      "the route must be nested under the session::require_session layer"
  | channelDied => "audit channel died"

end Abort

end AdminConsole
