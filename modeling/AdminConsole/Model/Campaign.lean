import AdminConsole.Abort
import AdminConsole.Json.Value
import AdminConsole.Model.Entity

/-!
# Advertising campaigns

Campaigns with their raw counters, and the figures drawn from these. Counters are words of 64 bits
and the spending, in cents, is a signed one; in the cost of a click the counter of clicks is taken
for a signed word too, so from 2 to the 63 on it counts as negative.
-/

namespace AdminConsole

/-- The state of a campaign. -/
inductive CampaignStatus
  | active
  | paused
  deriving DecidableEq, Repr

namespace CampaignStatus

/-- Both states. -/
def all : List CampaignStatus := [active, paused]

/-- The tag by which the state is written. -/
def tag : CampaignStatus → String
  | active => "active"
  | paused => "paused"

/-- The state with a given tag. -/
def ofTag? (s : String) : Option CampaignStatus := all.find? (·.tag == s)

end CampaignStatus

/-- An advertising campaign. -/
structure Campaign where
  id : Uuid
  name : String
  placement : String
  status : CampaignStatus
  impressions : UInt64
  clicks : UInt64
  conversions : UInt64
  spend : Int64
  deriving DecidableEq

namespace Campaign

instance : Entity Campaign := ⟨Campaign.id⟩

/-- The campaign is running. -/
def isActive (c : Campaign) : Bool := c.status == .active

/-- The fields of the campaign. -/
def fields (c : Campaign) : List (String × Json) :=
  [("id", .str c.id.text), ("name", .str c.name), ("placement", .str c.placement),
    ("status", .str c.status.tag), ("impressions", .nat c.impressions.toNat),
    ("clicks", .nat c.clicks.toNat), ("conversions", .nat c.conversions.toNat),
    ("spend_cents", .int c.spend.toInt)]

/-- The campaign as a value. -/
def toJson (c : Campaign) : Json := .obj c.fields

/-! ## Figures -/

/-- The share of one counter in another, in per cent; nothing of nothing is no share. -/
def percent (part whole : UInt64) : Float :=
  (if whole = 0 then 0.0 else part.toFloat / whole.toFloat) * 100.0

/-- Clicks per impression, in per cent. -/
def clickRate (c : Campaign) : Float := percent c.clicks c.impressions

/-- Conversions per click, in per cent. -/
def conversionRate (c : Campaign) : Float := percent c.conversions c.clicks

/-- The quotient of two signed words, cut toward zero. The one quotient that does not fit into a
word is that of the least word by minus one. -/
def quotient (a b : Int64) : Except Abort Int64 :=
  if a = Int64.minValue ∧ b = -1 then .error .quotientOutOfRange else .ok (a / b)

/-- The average cost of a click in cents, unless there were no clicks. -/
def costPerClick (c : Campaign) : Except Abort (Option Int64) :=
  if c.clicks = 0 then .ok none else (quotient c.spend c.clicks.toInt64).map some

/-- The figures as fields. -/
def figures (c : Campaign) (cost : Option Int64) : List (String × Json) :=
  [("ctr_percent", .ofFloat c.clickRate), ("conversion_percent", .ofFloat c.conversionRate),
    ("cost_per_click_cents", .option (fun q => .int q.toInt) cost)]

end Campaign

end AdminConsole
