import AdminConsole.Proofs.Page.Render
import AdminConsole.Proofs.Trail.Becoming

/-! # Money

A refund gives an amount back, and no other action touches a payment: the amount
goes from the sum of the settled payments to the sum of the refunded ones.  So
the two sums add up to the same money in every state (`Console.Balanced`),
whoever is deleted meanwhile.

Both sums are taken over the list as it stands, and a payment that is refunded
changes its side of the page and not its place in the list.  All that needs to
be known of a refund is what it makes of the sums over one list
(`Balance.of_refunded`).

The page adds up in words.  It shows the two sums if they fit, and what is left
of them otherwise, unless the program stops there.
-/
namespace AdminConsole

namespace Payment

/-- The exact sum of the amounts of some payments. -/
def total (ps : List Payment) : Int := Word.total (ps.map (·.amount))

theorem total_cons (p : Payment) (ps : List Payment) :
    total (p :: ps) = p.amount.toInt + total ps := Word.total_cons _ _

theorem total_append (ps qs : List Payment) : total (ps ++ qs) = total ps + total qs := by
  unfold total
  rw [List.map_append, Word.total_append]

/-- What lasts of a payment has its amount. -/
theorem total_map_lasting (ps : List Payment) : total (ps.map lasting) = total ps := by
  induction ps with
  | nil => rfl
  | cons p ps ih =>
    rw [List.map_cons, total_cons, total_cons, ih]
    rfl

/-- The exact sum of the payments in a state. -/
def totalIn (status : PaymentStatus) (ps : List Payment) : Int :=
  Word.total (PaymentsPage.amountsIn status ps)

theorem totalIn_append (s : PaymentStatus) (ps qs : List Payment) :
    totalIn s (ps ++ qs) = totalIn s ps + totalIn s qs := by
  unfold totalIn PaymentsPage.amountsIn
  rw [List.filter_append]
  exact total_append _ _

theorem totalIn_cons (s : PaymentStatus) (p : Payment) (ps : List Payment) :
    totalIn s (p :: ps) = (if p.status = s then p.amount.toInt else 0) + totalIn s ps := by
  unfold totalIn PaymentsPage.amountsIn
  by_cases hs : p.status = s
  · rw [if_pos hs, List.filter_cons_of_pos (by simpa using hs)]
    exact total_cons p _
  · rw [if_neg hs, List.filter_cons_of_neg (by simpa using hs), Int.zero_add]

end Payment

/-- The money that is settled, and the money that is refunded. -/
structure Balance where
  settled : Int
  refunded : Int
  deriving DecidableEq

namespace Balance

/-- The balance of some payments. -/
def of (ps : List Payment) : Balance where
  settled := Payment.totalIn .settled ps
  refunded := Payment.totalIn .refunded ps

/-- All money. -/
def sum (b : Balance) : Int := b.settled + b.refunded

/-- The balance after an amount is given back. -/
def giveBack (b : Balance) (amount : Int) : Balance where
  settled := b.settled - amount
  refunded := b.refunded + amount

/-- Every payment is on one side, and its amount is in one of the sums. -/
theorem sum_of (ps : List Payment) : (of ps).sum = Payment.total ps := by
  unfold sum of
  induction ps with
  | nil => rfl
  | cons p ps ih =>
    rw [Payment.totalIn_cons, Payment.totalIn_cons, Payment.total_cons, ← ih]
    cases p.status <;> simp <;> omega

/-- A payment that is refunded takes its amount to the other side. -/
theorem of_refunded {pre post : List Payment} {p : Payment} (now : Instant)
    (reason : Option String) (hp : p.status ≠ .refunded) :
    of (pre ++ p.afterRefund now reason :: post) =
      (of (pre ++ p :: post)).giveBack p.amount.toInt := by
  have hsettled : p.status = .settled := by
    cases hs : p.status with
    | settled => rfl
    | refunded => exact absurd hs hp
  unfold of giveBack
  simp only [Payment.totalIn_append, Payment.totalIn_cons, hsettled, Payment.afterRefund]
  congr 1 <;> simp <;> omega

/-- What the payments of `d` and `d'` come to, when the action was performed in between, if there
was one: a refund gives back the amount of its payment, and nothing else gives anything. -/
structure Follows (done : Option Action) (d d' : Data) : Prop where
  refund : ∀ id reason, done = some (.refundPayment id reason) →
    ∃ p, Entity.find? id d.payments = some p ∧
      of d'.payments = (of d.payments).giveBack p.amount.toInt
  other : (∀ id reason, done ≠ some (.refundPayment id reason)) →
    of d'.payments = of d.payments

/-- Where nothing was performed, no money moved. -/
theorem Follows.rest (d : Data) : Follows none d d where
  refund _ _ hdone := by cases hdone
  other _ := rfl

end Balance

/-- **A performed action moves the amount of the payment that it refunds, and no other money.** -/
theorem Action.Effect.balance_follows {actor : Uuid} {now : Instant} {a : Action} {d d' : Data}
    {result : Affected} (h : a.Effect actor now d result d') :
    Balance.Follows (some a) d d' where
  refund id reason hdone := by
    obtain rfl := Option.some.inj hdone
    obtain ⟨p, hp, ⟨pre, post, hitems, hpre, hid, rfl⟩, -⟩ := h
    have hfind : Entity.find? id (Listing.payments.items d) = some p := by
      rw [hitems]
      exact Edit.find?_eq_first hpre hid
    have hpayments : d.payments = pre ++ p :: post := hitems
    refine ⟨p, hfind, ?_⟩
    rw [hpayments]
    exact Balance.of_refunded now reason hp
  other hdone := by
    have hplace : a.kind.place ≠ .payments := by
      cases a with
      | refundPayment id reason => exact absurd rfl (hdone id reason)
      | _ => exact Section.noConfusion
    rw [h.beside.payments hplace]

/-! ## The page -/

/-- The balance that the page shows. -/
def PaymentsPage.balance (page : PaymentsPage) : Balance where
  settled := page.settled.toInt
  refunded := page.refunded.toInt

/-- The page shows the payments, and of their balance what is left of it in words, which is all if
the sums fit. -/
structure PaymentsPage.Shows (page : PaymentsPage) (d : Data) : Prop where
  payments : page.payments = d.payments
  settled : page.settled = Int64.ofInt (Balance.of d.payments).settled
  refunded : page.refunded = Int64.ofInt (Balance.of d.payments).refunded
  balance : d.SumsFit .payments → page.balance = Balance.of d.payments

namespace Console

/-- Whoever may see the payments sees them all and their balance, unless it stops the program. -/
theorem view_payments (c : Console) (overflow : Overflow) {viewer : Actor}
    (h : .viewPayments ∈ viewer.role.grants) :
    (∃ page, c.view overflow viewer .payments = .ok (.ok (.allowed (.payments page))) ∧
      (overflow = .stops → c.data.SumsFit .payments) ∧ page.Shows c.data) ∨
    overflow = .stops ∧ ¬ c.data.SumsFit .payments ∧
      c.view overflow viewer .payments = .error .sumOutOfRange := by
  have hpage : PageRequest.payments.permission ∈ viewer.role.grants := h
  rw [c.view_of_mem hpage]
  unfold render
  rcases PaymentsPage.of_cases overflow viewer c.data with ⟨hfit, hof⟩ | ⟨hstops, hfit, hof⟩
  · rw [hof]
    refine Or.inl ⟨_, rfl, hfit, ⟨rfl, rfl, rfl, fun hsums => ?_⟩⟩
    obtain ⟨hsettled, hrest⟩ := List.forall_mem_cons.mp hsums
    exact congrArg₂ Balance.mk hsettled.fits (List.forall_mem_singleton.mp hrest).fits
  · rw [hof]
    exact Or.inr ⟨hstops, hfit, rfl⟩

/-- The console has the payments that `start` has, but for refunds, and all the money of them; and
its page shows that, as far as it fits into words. -/
structure Balanced (start c : Console) : Prop where
  lasting : c.data.payments.map Payment.lasting = start.data.payments.map Payment.lasting
  sum : (Balance.of c.data.payments).sum = Payment.total start.data.payments
  page : ∀ (overflow : Overflow) (viewer : Actor), .viewPayments ∈ viewer.role.grants →
    (∃ page, c.view overflow viewer .payments = .ok (.ok (.allowed (.payments page))) ∧
      (overflow = .stops → c.data.SumsFit .payments) ∧ page.Shows c.data ∧
      (c.data.SumsFit .payments → page.balance.sum = Payment.total start.data.payments)) ∨
    overflow = .stops ∧ ¬ c.data.SumsFit .payments ∧
      c.view overflow viewer .payments = .error .sumOutOfRange

theorem balanced_of_becomes {start c : Console} (h : start.data.Becomes c.data) :
    start.Balanced c := by
  have hlasting : c.data.payments.map Payment.lasting = start.data.payments.map Payment.lasting :=
    map_eq_of_forall₂ (fun _ _ hp => hp.lasting) h.payments
  have hsum : (Balance.of c.data.payments).sum = Payment.total start.data.payments := by
    rw [Balance.sum_of, ← Payment.total_map_lasting, hlasting, Payment.total_map_lasting]
  refine ⟨hlasting, hsum, fun overflow viewer hviewer => ?_⟩
  rcases c.view_payments overflow hviewer with ⟨page, hview, hfit, hshows⟩ | hmissing
  · refine Or.inl ⟨page, hview, hfit, hshows, fun hsums => ?_⟩
    rw [hshows.balance hsums, hsum]
  · exact Or.inr hmissing

/-- An order moves the money of the payment that it refunds, if it is carried out. -/
theorem obey_balance (c : Console) (order : Order) :
    Balance.Follows ((c.receipt? order).map fun _ => order.action) c.data (c.obey order).data := by
  rcases c.receipt_cases order with ⟨hnone, hc⟩ | ⟨receipt, record, hsome, heffect, -, -⟩
  · rw [hnone, hc]
    exact Balance.Follows.rest c.data
  · rw [hsome]
    exact heffect.balance_follows

end Console

/-- A move of one of many calls moves the money of the payment that it refunds. -/
theorem Moved.balance_follows {f f' : Floor} {m : Move} (h : Moved f m f') :
    Balance.Follows (f'.changes[f.changes.length]?.map fun c => c.call.action) f.console.data
      f'.console.data := by
  rcases h.data_cases with ⟨hchanges, hdata⟩ | ⟨c, result, hchanges, heffect⟩
  · rw [hchanges, hdata, List.getElem?_eq_none (Nat.le_refl _)]
    exact Balance.Follows.rest f.console.data
  · rw [hchanges, List.getElem?_concat_length]
    exact heffect.balance_follows

/-- The action by which a move changes the data, if it does. -/
def Floor.done? (f : Floor) (m : Move) : Option Action :=
  (f.step m).changes[f.changes.length]?.map fun c => c.call.action

namespace Console

/-- **Money is conserved.**  However calls interleave and whichever orders are obeyed, the payments
are those of the start but for their refunds, and their balance sums up to all amounts of the start,
over exact integers; to everyone who may see the payments the page shows that balance, if its sums
fit into words.  An order that is carried out as a refund gives
back exactly the amount of its payment; every other order, and every one that is denied or refused,
leaves the balance alone; and the same is true of the moves of calls side by side. -/
theorem money_is_conserved (start : Console) :
    (∀ orders, start.Balanced (start.obeyAll orders)) ∧
    (∀ moves, start.Balanced ((Floor.opened start).run moves).console) ∧
    (∀ (c : Console) (order : Order),
      Balance.Follows ((c.receipt? order).map fun _ => order.action) c.data (c.obey order).data) ∧
    ∀ (f : Floor) (m : Move),
      Balance.Follows (f.done? m) f.console.data (f.step m).console.data := by
  refine ⟨fun orders => ?_, fun moves => ?_, obey_balance, fun f m => (f.moved m).balance_follows⟩
  · exact balanced_of_becomes (leads_obeyAll start orders).becomes
  · exact balanced_of_becomes (Floor.leads_run start moves).becomes

/-- A payment is refunded, which cannot be done again, and a member who paid is deleted. -/
example : Balance.of (sample.obeyAll [sampleOrder 1 (.refundPayment (Sample.paymentId 1) none),
      sampleOrder 2 (.refundPayment (Sample.paymentId 1) none),
      sampleOrder 2 (.deleteMember (Sample.memberId 4))]).data.payments =
    (Balance.of sample.data.payments).giveBack 1999 := by decide

end Console

end AdminConsole
