import AdminConsole.Http.Headers
import AdminConsole.Text.Blank

/-!
# Device labels

The device behind a request is named by its browser and system when its user agent is recognised,
and otherwise by the first characters of the user agent itself. How a user agent is recognised is
left open.
-/

namespace AdminConsole

/-- What is recognised behind a user agent: a program that sends requests, and its system. Either
may be `Agent.unnamed`. -/
structure Agent where
  name : String
  system : String
  deriving DecidableEq, Repr

namespace Agent

/-- Stands for the name of what is not known. -/
def unnamed : String := "UNKNOWN"

/-- The program is known. -/
def isNamed (a : Agent) : Bool := a.name != unnamed

/-- The label of an agent. -/
def label (a : Agent) : String :=
  if a.system = unnamed then a.name else a.name ++ " on " ++ a.system

end Agent

namespace Device

/-- The number of characters of a user agent that are looked at. -/
def readLimit : Nat := 512

/-- The number of characters of an unknown user agent that are kept. -/
def labelLimit : Nat := 64

/-- The label where there is no user agent. -/
def unknown : String := "unknown"

/-- A control character. -/
def isControl (c : Char) : Bool := c.toNat < 0x20 || (0x7f ≤ c.toNat && c.toNat ≤ 0x9f)

/-- The part of a user agent that is looked at: no controls but blanks, and not too long. -/
def readable (s : String) : String :=
  String.ofList ((s.toList.filter fun c => !isControl c || Text.isBlank c).take readLimit)

/-- The label of a device by its user agent, recognised by `recognise`. -/
def labelWith (recognise : String → Option Agent) (userAgent : Option String) : String :=
  match Text.nonblank (userAgent.map readable) with
  | none => unknown
  | some s =>
    match (recognise s).filter Agent.isNamed with
    | some agent => agent.label
    | none => String.ofList (s.toList.take labelLimit)

/-- The label of the device that sent a request with these headers. -/
def ofHeaders (recognise : String → Option Agent) (h : Headers) : String :=
  labelWith recognise (h.readable? "user-agent")

end Device

end AdminConsole
