import AdminConsole.Json.Value
import AdminConsole.Model.Entity
import AdminConsole.Time.Rfc3339

/-!
# Payments

What members bought. A payment is settled until it is refunded.
-/

namespace AdminConsole

/-- What is for sale. -/
inductive Product
  | premiumMonthly
  | premiumYearly
  | boost
  | superLikes
  deriving DecidableEq, Repr

namespace Product

/-- Everything that is for sale. -/
def all : List Product := [premiumMonthly, premiumYearly, boost, superLikes]

/-- The tag by which the product is written. -/
def tag : Product → String
  | premiumMonthly => "premium_monthly"
  | premiumYearly => "premium_yearly"
  | boost => "boost"
  | superLikes => "super_likes"

/-- The product with a given tag. -/
def ofTag? (s : String) : Option Product := all.find? (·.tag == s)

end Product

/-- The state of a payment. -/
inductive PaymentStatus
  | settled
  | refunded
  deriving DecidableEq, Repr

namespace PaymentStatus

/-- Both states. -/
def all : List PaymentStatus := [settled, refunded]

/-- The tag by which the state is written. -/
def tag : PaymentStatus → String
  | settled => "settled"
  | refunded => "refunded"

/-- The state with a given tag. -/
def ofTag? (s : String) : Option PaymentStatus := all.find? (·.tag == s)

end PaymentStatus

/-- A purchase by a member; the amount is in cents. -/
structure Payment where
  id : Uuid
  member : Uuid
  product : Product
  amount : Int64
  currency : String
  status : PaymentStatus
  createdAt : Instant
  refundedAt : Option Instant
  refundReason : Option String
  deriving DecidableEq

namespace Payment

instance : Entity Payment := ⟨Payment.id⟩

/-- The payment as a value. -/
def toJson (p : Payment) : Json :=
  .obj [("id", .str p.id.text), ("member_id", .str p.member.text), ("product", .str p.product.tag),
    ("amount_cents", .int p.amount.toInt), ("currency", .str p.currency),
    ("status", .str p.status.tag), ("created_at", .str p.createdAt.text),
    ("refunded_at", .option (fun t => .str t.text) p.refundedAt),
    ("refund_reason", .option .str p.refundReason)]

end Payment

end AdminConsole
