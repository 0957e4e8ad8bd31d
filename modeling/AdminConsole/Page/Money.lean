import AdminConsole.Model.Data
import AdminConsole.Page.Control

/-!
# Pages about payments and campaigns

Payments with the sums of the settled and the refunded ones, and campaigns with the figures drawn
from their counters. A page is there unless the program stops at one of its figures.
-/

namespace AdminConsole

/-- The payments and their sums. -/
structure PaymentsPage where
  payments : List Payment
  settled : Int64
  refunded : Int64
  controls : List Control
  deriving DecidableEq

namespace PaymentsPage

/-- The amounts of the payments in a state. -/
def amountsIn (status : PaymentStatus) (ps : List Payment) : List Int64 :=
  (ps.filter fun p => p.status == status).map (·.amount)

/-- The page of the payments of the data. -/
def of (overflow : Overflow) (actor : Actor) (d : Data) : Except Abort PaymentsPage := do
  let settled ← overflow.sum (amountsIn .settled d.payments)
  let refunded ← overflow.sum (amountsIn .refunded d.payments)
  return {
    payments := d.payments
    settled := settled
    refunded := refunded
    controls := AdminConsole.controls actor Button.ofPayments }

/-- The page as a value. -/
def toJson (p : PaymentsPage) : Json :=
  .obj [("payments", .list Payment.toJson p.payments), ("settled_cents", .int p.settled.toInt),
    ("refunded_cents", .int p.refunded.toInt), ("controls", .list Control.toJson p.controls)]

end PaymentsPage

/-- A campaign with the cost of a click. -/
structure CampaignRow where
  campaign : Campaign
  costPerClick : Option Int64
  deriving DecidableEq

namespace CampaignRow

/-- The row of a campaign. -/
def of (c : Campaign) : Except Abort CampaignRow :=
  match c.costPerClick with
  | .ok cost => .ok { campaign := c, costPerClick := cost }
  | .error e => .error e

/-- The row as a value. -/
def toJson (r : CampaignRow) : Json :=
  .obj (r.campaign.fields ++ r.campaign.figures r.costPerClick)

end CampaignRow

/-- The campaigns and their figures. -/
structure AdsPage where
  campaigns : List CampaignRow
  activeCount : Nat
  totalSpend : Int64
  controls : List Control
  deriving DecidableEq

namespace AdsPage

/-- The page of the campaigns of the data. -/
def of (overflow : Overflow) (actor : Actor) (d : Data) : Except Abort AdsPage := do
  let rows ← d.campaigns.mapM CampaignRow.of
  let totalSpend ← overflow.sum (d.campaigns.map (·.spend))
  return {
    campaigns := rows
    activeCount := d.campaigns.countP (·.isActive)
    totalSpend := totalSpend
    controls := AdminConsole.controls actor Button.ofCampaigns }

/-- The page as a value. -/
def toJson (p : AdsPage) : Json :=
  .obj [("campaigns", .list CampaignRow.toJson p.campaigns), ("active_count", .nat p.activeCount),
    ("total_spend_cents", .int p.totalSpend.toInt), ("controls", .list Control.toJson p.controls)]

end AdsPage

end AdminConsole
