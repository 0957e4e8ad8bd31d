import AdminConsole.Proofs.Action.Commute
import AdminConsole.Proofs.Trail.Course

/-! # Orders that do not depend on each other

What comes of an order is the reply to it and the record that is submitted, and
both can be told from what its action does to the data (`Console.comesOf_eq`).
So orders for actions on different things may change places: each comes to the
same, first or second, and they leave the same data
(`Console.independent_orders`).
-/
namespace AdminConsole

/-- The reply to an order, and the record that is submitted if it is performed. -/
structure Upshot where
  reply : Except Refusal (Gated ActionReceipt)
  record? : Option AuditRecord
  deriving DecidableEq

namespace Order

/-- What comes of an order that the gate turns away. -/
def turnedAway (order : Order) : Upshot where
  reply := .ok (.denied { required := order.action.kind.permission, role := order.actor.role })
  record? := none

/-- What comes of an order behind the gate, if its action ends so. -/
def settled (order : Order) : Except Refusal Performed → Upshot
  | .ok done =>
    { reply := .ok (.allowed { result := done.result, recordId := order.occasion.recordId })
      record? := some (Console.recordOf order.actor order.origin order.occasion order.action.kind
        done.target) }
  | .error r => { reply := .error r, record? := none }

/-- What comes of an order, if its action would end so. -/
def upshot (order : Order) (outcome : Except Refusal Performed) : Upshot :=
  if order.action.kind.permission ∈ order.actor.role.grants then order.settled outcome
  else order.turnedAway

end Order

namespace Console

variable {c : Console} {order : Order}

/-- What comes of an order. -/
def comesOf (c : Console) (order : Order) : Upshot where
  reply := (perform order.actor order.origin order.occasion order.action c).1
  record? := c.outbox.submitted? (c.obey order).outbox

/-- What comes of an order can be told from what its action does to the data. -/
theorem comesOf_eq (c : Console) (order : Order) :
    c.comesOf order = order.upshot (c.attempt order).1 := by
  have hsame : c.outbox.submitted? c.outbox = none := if_neg (Nat.lt_irrefl _)
  rcases perform_cases order.actor order.origin order.occasion order.action c with
    ⟨hp, h⟩ | ⟨hp, r, hrun, h⟩ | ⟨hp, done, data, hrun, h⟩
  · rw [comesOf, Order.upshot, if_neg hp, Order.turnedAway, obey, h, hsame]
  · rw [comesOf, Order.upshot, if_pos hp, obey, h, hsame, attempt, hrun, Order.settled]
  · rw [comesOf, Order.upshot, if_pos hp, obey, h, (Outbox.received_submit _ _).submitted?_eq,
      attempt, hrun, Order.settled]

/-- An order of an actor who may not leaves the console as it is. -/
theorem obey_of_not_entitled (hp : order.action.kind.permission ∉ order.actor.role.grants)
    (c : Console) : c.obey order = c := by
  rcases perform_cases order.actor order.origin order.occasion order.action c with
    ⟨-, h⟩ | ⟨hp', -⟩ | ⟨hp', -⟩
  · exact congrArg Prod.snd h
  · exact absurd hp' hp
  · exact absurd hp' hp

/-- To an actor who may not, the data makes no difference. -/
theorem comesOf_of_not_entitled (hp : order.action.kind.permission ∉ order.actor.role.grants)
    (c c' : Console) : c.comesOf order = c'.comesOf order := by
  rw [comesOf_eq, comesOf_eq, Order.upshot, Order.upshot, if_neg hp, if_neg hp]

/-- **Orders for actions on different things may change places.**  Whoever gives two orders, and
however many things have one identifier: unless both assign roles, each order comes to the same
reply and the same record whether it is given first or second, and the data is the same after both
in either order. -/
theorem independent_orders (c : Console) (x y : Order) (hne : x.action.entity ≠ y.action.entity)
    (hroles : ¬ (x.action.kind = .assignRole ∧ y.action.kind = .assignRole)) :
    (c.obey y).comesOf x = c.comesOf x ∧ (c.obey x).comesOf y = c.comesOf y ∧
      ((c.obey x).obey y).data = ((c.obey y).obey x).data := by
  by_cases hx : x.action.kind.permission ∈ x.actor.role.grants
  · by_cases hy : y.action.kind.permission ∈ y.actor.role.grants
    · have hcomm := Action.run_commutes hne hroles x.actor.id y.actor.id x.occasion.now
        y.occasion.now c.data
      have hdx : (c.obey x).data = _ := data_obey_of_entitled hx
      have hdy : (c.obey y).data = _ := data_obey_of_entitled hy
      refine ⟨?_, ?_, ?_⟩
      · rw [comesOf_eq, comesOf_eq, attempt, hdy]
        exact congrArg x.upshot hcomm.left
      · rw [comesOf_eq, comesOf_eq, attempt, hdx]
        exact congrArg y.upshot hcomm.right
      · rw [data_obey_of_entitled hy, data_obey_of_entitled hx, attempt, attempt, hdx, hdy]
        exact hcomm.state
    · rw [obey_of_not_entitled hy, obey_of_not_entitled hy]
      exact ⟨rfl, comesOf_of_not_entitled hy _ _, rfl⟩
  · rw [obey_of_not_entitled hx, obey_of_not_entitled hx]
    exact ⟨comesOf_of_not_entitled hx _ _, rfl, rfl⟩

/-- One member is removed from the list, and another one, who stands behind, is banned. -/
theorem independent_orders_sampleMembers :
    let x := sampleOrder 1 (.deleteMember (Sample.memberId 1))
    let y := sampleOrder 1 (.banMember (Sample.memberId 2) (some "spam"))
    x.action.entity ≠ y.action.entity ∧
      ¬ (x.action.kind = .assignRole ∧ y.action.kind = .assignRole) ∧
      (sample.comesOf x).record?.isSome ∧ (sample.comesOf y).record?.isSome ∧
      (sample.obey y).comesOf x = sample.comesOf x ∧
      (sample.obey x).comesOf y = sample.comesOf y ∧
      ((sample.obey x).obey y).data = ((sample.obey y).obey x).data := by
  intro x y
  have hne : x.action.entity ≠ y.action.entity := by decide
  have hroles : ¬ (x.action.kind = .assignRole ∧ y.action.kind = .assignRole) := by decide
  exact ⟨hne, hroles, by decide, by decide, independent_orders sample x y hne hroles⟩

end Console

end AdminConsole
