import AdminConsole.Proofs.Calls.Accounts
import AdminConsole.Proofs.Trail.Replay

/-! # The course of the data

Whoever calls for whatever, and however the calls interleave: the data only
ever changes by actions that are performed, one after the other
(`Data.LeadsBy`).  This holds of calls side by side, whose deeds are those of
the changes that were made (`Floor.leadsBy_run`), and of orders that are obeyed
in turn, whose deeds are those of the trail (`Console.leadsBy_obeyAll`), which
are the deeds of the orders that are carried out (`Console.map_deed_trail`).  So
what every performed action keeps holds in every state that can be reached
(`Data.Leads.keeps`).
-/
namespace AdminConsole

/-- Performed actions lead from `d` to the data, whoever performs them and when. -/
inductive Data.Leads (d : Data) : Data → Prop
  | start : Leads d d
  | more {e e' : Data} {actor : Uuid} {now : Instant} {a : Action} {result : Affected} :
      Leads d e → a.Effect actor now e result e' → Leads d e'

namespace Data.Leads

variable {c d e : Data}

theorem trans (h : c.Leads d) (h' : d.Leads e) : c.Leads e := by
  induction h' with
  | start => exact h
  | more _ heffect ih => exact more ih heffect

/-- What every performed action keeps is kept. -/
theorem keeps {P : Data → Prop} (h : d.Leads e)
    (hstep : ∀ {actor now a d' result e'}, Action.Effect actor now a d' result e' → P d' → P e')
    (hd : P d) : P e := by
  induction h with
  | start => exact hd
  | more _ heffect ih => exact hstep heffect ih

end Data.Leads

/-- Performed actions lead from `d` to the data, and these are their deeds, oldest first. -/
inductive Data.LeadsBy (d : Data) : List Deed → Data → Prop
  | start : LeadsBy d [] d
  | more {e e' : Data} {deeds : List Deed} {actor : Uuid} {now : Instant} {a : Action}
      {result : Affected} : LeadsBy d deeds e → a.Effect actor now e result e' →
      LeadsBy d (deeds ++ [Deed.of actor a]) e'

namespace Data.LeadsBy

variable {c d e : Data} {deeds later : List Deed}

theorem leads (h : d.LeadsBy deeds e) : d.Leads e := by
  induction h with
  | start => exact Leads.start
  | more _ heffect ih => exact Leads.more ih heffect

theorem trans (h : c.LeadsBy deeds d) (h' : d.LeadsBy later e) : c.LeadsBy (deeds ++ later) e := by
  induction h' with
  | start =>
    rw [List.append_nil]
    exact h
  | more _ heffect ih =>
    rw [← List.append_assoc]
    exact more ih heffect

end Data.LeadsBy

/-- The deed by which a change was made. -/
def Change.deed (c : Change) : Deed := Deed.of c.call.actor.id c.call.action

/-- The record of a change is that of its deed. -/
theorem Submission.Of.deed_eq {s : Submission} {c : Change} (h : s.Of c) :
    s.record.deed = c.deed := by
  unfold AuditRecord.deed Change.deed Deed.of
  rw [h.action, h.target, h.actor]

/-- A move leaves the data and the log of changes alone, or it makes one change. -/
theorem Moved.data_cases {f f' : Floor} {m : Move} (h : Moved f m f') :
    (f'.changes = f.changes ∧ f'.console.data = f.console.data) ∨
    ∃ c result, f'.changes = f.changes ++ [c] ∧
      c.call.action.Effect c.call.actor.id c.now f.console.data result f'.console.data := by
  cases h with
  | mutated _ hrun => exact Or.inr ⟨_, _, rfl, (Action.run_ok hrun).2⟩
  | _ => exact Or.inl ⟨rfl, rfl⟩

/-- Logged changes lead from the data before them to the data after them. -/
theorem Made.leadsBy {d e : Data} {changes : List Change} (h : Made d changes e) :
    d.LeadsBy (changes.map Change.deed) e := by
  induction h with
  | none => exact Data.LeadsBy.start
  | more _ hrun ih =>
    rw [List.map_append]
    exact Data.LeadsBy.more ih (Action.run_ok hrun).2

/-- Calls side by side change the data by performed actions only. -/
theorem Floor.leadsBy_run (start : Console) (moves : List Move) :
    start.data.LeadsBy (((opened start).run moves).changes.map Change.deed)
      ((opened start).run moves).console.data :=
  ((Accounted.opened start).run moves).made.leadsBy

theorem Floor.leads_run (start : Console) (moves : List Move) :
    start.data.Leads ((opened start).run moves).console.data :=
  (leadsBy_run start moves).leads

/-- From any state of the floor on, calls side by side change the data by performed actions only. -/
theorem Floor.leads_on (f : Floor) (moves : List Move) :
    f.console.data.Leads (f.run moves).console.data := by
  induction moves generalizing f with
  | nil => exact Data.Leads.start
  | cons m moves ih =>
    refine Data.Leads.trans ?_ (ih (f.step m))
    rcases (f.moved m).data_cases with ⟨-, hdata⟩ | ⟨c, result, -, heffect⟩
    · rw [hdata]
      exact Data.Leads.start
    · exact Data.Leads.more Data.Leads.start heffect

/-- Orders obeyed in turn change the data by performed actions only. -/
theorem Console.leadsBy_obeyAll (c : Console) (orders : List Order) :
    c.data.LeadsBy ((c.trail orders).map AuditRecord.deed) (c.obeyAll orders).data := by
  induction orders generalizing c with
  | nil => exact Data.LeadsBy.start
  | cons order rest ih =>
    rw [obeyAll_cons, trail, List.map_append]
    refine Data.LeadsBy.trans ?_ (ih (c.obey order))
    rcases obey_cases c order with ⟨hc, hnone⟩ | ⟨result, record, heffect, -, hsome, hdeed⟩
    · rw [hnone, hc]
      exact Data.LeadsBy.start
    · rw [hsome, Option.toList_some, List.map_singleton, hdeed]
      exact Data.LeadsBy.more Data.LeadsBy.start heffect

theorem Console.leads_obeyAll (c : Console) (orders : List Order) :
    c.data.Leads (c.obeyAll orders).data :=
  (leadsBy_obeyAll c orders).leads

/-! ## Orders that are carried out -/

/-- The deed that is asked for. -/
def Order.deed (order : Order) : Deed := Deed.of order.actor.id order.action

namespace Console

/-- What is handed out for an order that is carried out. -/
def receipt? (c : Console) (order : Order) : Option ActionReceipt :=
  match (perform order.actor order.origin order.occasion order.action c).1 with
  | .ok (.allowed receipt) => some receipt
  | _ => none

/-- The orders that are carried out, when all are obeyed in turn. -/
def carriedOut (c : Console) : List Order → List Order
  | [] => []
  | order :: rest =>
    (if (c.receipt? order).isSome then [order] else []) ++ (c.obey order).carriedOut rest

/-- An order comes to nothing, or it is carried out and the record of its deed is submitted. -/
theorem receipt_cases (c : Console) (order : Order) :
    (c.receipt? order = none ∧ c.obey order = c) ∨
    ∃ receipt record, c.receipt? order = some receipt ∧
      order.action.Effect order.actor.id order.occasion.now c.data receipt.result
        (c.obey order).data ∧
      c.outbox.submitted? (c.obey order).outbox = some record ∧ record.deed = order.deed := by
  rcases perform_cases order.actor order.origin order.occasion order.action c with
    ⟨-, h⟩ | ⟨-, r, -, h⟩ | ⟨-, done, data, hrun, h⟩
  · exact Or.inl ⟨by rw [receipt?, h], congrArg Prod.snd h⟩
  · exact Or.inl ⟨by rw [receipt?, h], congrArg Prod.snd h⟩
  · have hc : c.obey order = _ := congrArg Prod.snd h
    obtain ⟨htarget, heffect⟩ := Action.run_ok hrun
    have hreceived := Outbox.received_submit c.outbox
      (recordOf order.actor order.origin order.occasion order.action.kind done.target)
    refine Or.inr ⟨_, _, by rw [receipt?, h], by rw [hc]; exact heffect,
      by rw [hc]; exact hreceived.submitted?_eq, ?_⟩
    rw [AuditRecord.deed, Order.deed, Deed.of, recordOf, htarget]

/-- What the action of an order does to the data, whether the actor may or not. -/
def attempt (c : Console) (order : Order) : Except Refusal Performed × Data :=
  (order.action.run order.actor.id order.occasion.now).exec c.data

theorem data_obey_of_entitled {c : Console} {order : Order}
    (hp : order.action.kind.permission ∈ order.actor.role.grants) :
    (c.obey order).data = (c.attempt order).2 := by
  rcases perform_cases order.actor order.origin order.occasion order.action c with
    ⟨hp', -⟩ | ⟨-, r, hrun, h⟩ | ⟨-, done, data, hrun, h⟩
  · exact absurd hp hp'
  · rw [obey, h, attempt, hrun]
  · rw [obey, h, attempt, hrun]

/-- A receipt is handed out behind the gate, and for an action that is performed. -/
theorem receipt?_eq_some_iff {c : Console} {order : Order} {receipt : ActionReceipt} :
    c.receipt? order = some receipt ↔ order.action.kind.permission ∈ order.actor.role.grants ∧
      ∃ done, (c.attempt order).1 = .ok done ∧
        receipt = { result := done.result, recordId := order.occasion.recordId } := by
  rcases perform_cases order.actor order.origin order.occasion order.action c with
    ⟨hp, h⟩ | ⟨-, r, hrun, h⟩ | ⟨hp, done, data, hrun, h⟩
  · rw [receipt?, h]
    simp only [reduceCtorEq, hp, false_and]
  · rw [receipt?, h, attempt, hrun]
    simp only [reduceCtorEq, false_and, exists_false, and_false]
  · rw [receipt?, h, attempt, hrun]
    simp only [Option.some.injEq, Except.ok.injEq, hp, true_and, exists_eq_left', eq_comm]

/-- **The trail has the deeds that were carried out, and no others.** -/
theorem map_deed_trail (c : Console) (orders : List Order) :
    (c.trail orders).map AuditRecord.deed = (c.carriedOut orders).map Order.deed := by
  induction orders generalizing c with
  | nil => rfl
  | cons order rest ih =>
    rw [trail, carriedOut, List.map_append, List.map_append, ih]
    congr 1
    rcases c.receipt_cases order with ⟨hnone, hc⟩ | ⟨receipt, record, hsome, -, hrecord, hdeed⟩
    · have hsame : c.outbox.submitted? c.outbox = none := if_neg (Nat.lt_irrefl _)
      rw [hc, hsame, hnone]
      rfl
    · rw [hrecord, hsome, Option.toList_some, List.map_singleton, hdeed]
      rfl

/-- An action as an operator, told by the number, asks for it with the rights of an owner. -/
def sampleOrder (operator : Nat) (a : Action) : Order where
  actor := { id := Sample.operatorId operator, role := .owner }
  origin := { ip := "127.0.0.1", device := "Firefox" }
  occasion := { now := Sample.daysAgo 0, recordId := .ofNat 1 }
  action := a

end Console

end AdminConsole
