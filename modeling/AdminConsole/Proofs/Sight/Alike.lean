import AdminConsole.Console
import AdminConsole.Proofs.Action.Edit
import Mathlib.Data.List.Forall2
import Mathlib.Data.List.Nodup

/-! # Alike up to what is drawn

Two runs that take the same steps draw identifiers and read clocks of their
own.  What they show is then the same but for these: a payment that was refunded
on the way has another time of its refund, and a record that was submitted on
the way another identifier and another time.  Things are **alike** when they are
the same, or the same but for what the two runs drew at one of their steps.

An entry of the journal is found by the identifier of its record.  So entries
that were there before count as alike only if nothing that is drawn can be taken
for theirs, and then a delivery that ends marks corresponding entries.
-/
namespace AdminConsole

/-- What two runs draw, step by step. -/
abbrev Draws := List (Occasion × Occasion)

variable {draws : Draws} {o : Occasion × Occasion}

/-- The same payment, or one that was refunded at a step of the runs. -/
inductive Payment.Alike (draws : Draws) : Payment → Payment → Prop
  | same (p : Payment) : Alike draws p p
  | refunded {o : Occasion × Occasion} (p : Payment) : o ∈ draws →
      Alike draws { p with refundedAt := some o.1.now } { p with refundedAt := some o.2.now }

/-- The record with the identifier and the time of an occasion. -/
def AuditRecord.on (r : AuditRecord) (occasion : Occasion) : AuditRecord :=
  { r with id := occasion.recordId, timestamp := occasion.now }

/-- The same entry, with an identifier that is never drawn, or the entry of a record that was
submitted at a step of the runs. -/
inductive JournalEntry.Alike (draws : Draws) : JournalEntry → JournalEntry → Prop
  | same {e : JournalEntry} :
      (∀ o ∈ draws, e.record.id ≠ o.1.recordId ∧ e.record.id ≠ o.2.recordId) → Alike draws e e
  | drawn {o : Occasion × Occasion} (r : AuditRecord) (status : DeliveryStatus) : o ∈ draws →
      Alike draws ⟨r.on o.1, status⟩ ⟨r.on o.2, status⟩

/-- The same thing that an action was about, or alike payments. -/
inductive Affected.Alike (draws : Draws) : Affected → Affected → Prop
  | same (a : Affected) : Alike draws a a
  | payment {p q : Payment} : p.Alike draws q → Alike draws (.payment p) (.payment q)

/-- Receipts of alike things, with identifiers that were drawn at one step. -/
structure ActionReceipt.Alike (draws : Draws) (r s : ActionReceipt) : Prop where
  result : r.result.Alike draws s.result
  recordId : ∃ o ∈ draws, r.recordId = o.1.recordId ∧ s.recordId = o.2.recordId

/-- The same page, or pages that show alike payments or alike entries and are the same beside. -/
inductive Page.Alike (draws : Draws) : Page → Page → Prop
  | same (p : Page) : Alike draws p p
  | payments {p q : PaymentsPage} : List.Forall₂ (Payment.Alike draws) p.payments q.payments →
      p.settled = q.settled → p.refunded = q.refunded → p.controls = q.controls →
      Alike draws (.payments p) (.payments q)
  | audit {p q : AuditPage} : List.Forall₂ (JournalEntry.Alike draws) p.entries q.entries →
      p.transport = q.transport → Alike draws (.audit p) (.audit q)

theorem Page.Alike.transport_eq {p q : AuditPage} (h : Page.Alike draws (.audit p) (.audit q)) :
    p.transport = q.transport := by
  cases h with
  | same => rfl
  | audit _ htransport => exact htransport

/-! ## Payments -/

namespace Payment.Alike

variable {p q : Payment}

theorem id_eq (h : p.Alike draws q) : p.id = q.id := by cases h <;> rfl

theorem status_eq (h : p.Alike draws q) : p.status = q.status := by cases h <;> rfl

theorem amount_eq (h : p.Alike draws q) : p.amount = q.amount := by cases h <;> rfl

/-- To refund both at one step keeps them alike. -/
theorem afterRefund (h : p.Alike draws q) (ho : o ∈ draws) (reason : Option String) :
    (p.afterRefund o.1.now reason).Alike draws (q.afterRefund o.2.now reason) := by
  cases h with
  | same =>
    exact refunded { p with status := .refunded, refundReason := Text.nonblank reason } ho
  | refunded p _ =>
    exact refunded { p with status := .refunded, refundReason := Text.nonblank reason } ho

/-- A refund at one step is refused for both, or performed on both. -/
theorem exec_refund (h : p.Alike draws q) (ho : o ∈ draws) (reason : Option String) :
    (∃ r, (Payment.refund o.1.now reason).exec p = (.error r, p) ∧
      (Payment.refund o.2.now reason).exec q = (.error r, q)) ∨
    ∃ p' q', p'.Alike draws q' ∧ (Payment.refund o.1.now reason).exec p = (.ok (), p') ∧
      (Payment.refund o.2.now reason).exec q = (.ok (), q') := by
  rw [Payment.refund_follows, Payment.refund_follows]
  by_cases hp : p.status = .refunded
  · exact Or.inl ⟨.alreadyRefunded, by simp only [if_pos hp],
      by simp only [if_pos (h.status_eq ▸ hp)]⟩
  · exact Or.inr ⟨_, _, h.afterRefund ho reason, by simp only [if_neg hp],
      by simp only [if_neg (h.status_eq ▸ hp)]⟩

/-- The amounts in a state do not show when a payment was refunded. -/
theorem amountsIn_eq {ps qs : List Payment} (h : List.Forall₂ (Payment.Alike draws) ps qs)
    (status : PaymentStatus) :
    PaymentsPage.amountsIn status ps = PaymentsPage.amountsIn status qs := by
  unfold PaymentsPage.amountsIn
  induction h with
  | nil => rfl
  | cons hpq _ ih =>
    rw [List.filter_cons, List.filter_cons, hpq.status_eq]
    split
    · rw [List.map_cons, List.map_cons, hpq.amount_eq, ih]
    · exact ih

end Payment.Alike

/-! ## The journal -/

/-- Each run draws every identifier once. -/
structure Draws.Apart (draws : Draws) : Prop where
  left : (draws.map fun o => o.1.recordId).Nodup
  right : (draws.map fun o => o.2.recordId).Nodup

namespace JournalEntry.Alike

variable {e f : JournalEntry} {x y id : Uuid} {status : DeliveryStatus}

/-- One run has drawn the identifier of its entry when the other has drawn that of the alike one. -/
theorem id_iff (hapart : draws.Apart) (h : e.Alike draws f) (ho : o ∈ draws) :
    e.record.id = o.1.recordId ↔ f.record.id = o.2.recordId := by
  cases h with
  | same hnew => exact iff_of_false (hnew o ho).1 (hnew o ho).2
  | drawn r status ho' =>
    constructor
    · intro hid
      rw [List.inj_on_of_nodup_map hapart.left ho' ho hid]
      rfl
    · intro hid
      rw [List.inj_on_of_nodup_map hapart.right ho' ho hid]
      rfl

/-- An identifier that is never drawn is that of both entries or of none. -/
theorem id_iff_of_not_drawn (h : e.Alike draws f)
    (hid : ∀ o ∈ draws, id ≠ o.1.recordId ∧ id ≠ o.2.recordId) :
    e.record.id = id ↔ f.record.id = id := by
  cases h with
  | same => exact Iff.rfl
  | drawn r status ho => exact iff_of_false (hid _ ho).1.symm (hid _ ho).2.symm

theorem with_status (h : e.Alike draws f) (status : DeliveryStatus) :
    Alike draws { e with status := status } { f with status := status } := by
  cases h with
  | same hnew => exact same hnew
  | drawn r _ ho => exact drawn r status ho

end JournalEntry.Alike

namespace Journal

variable {j k : Journal} {x y : Uuid}

/-- Alike journals have alike entries, in the same order. -/
def Alike (draws : Draws) (j k : Journal) : Prop :=
  List.Forall₂ (JournalEntry.Alike draws) j.entries k.entries

namespace Alike

theorem recent (h : j.Alike draws k) (limit : Nat) :
    List.Forall₂ (JournalEntry.Alike draws) (j.recent limit) (k.recent limit) :=
  List.forall₂_take limit (List.rel_reverse h)

theorem evict (h : j.Alike draws k) : j.evict.Alike draws k.evict := by
  unfold Journal.evict
  rw [List.Forall₂.length_eq h]
  split
  · exact List.forall₂_drop 1 h
  · exact h

/-- Records of one step are entered. -/
theorem append (h : j.Alike draws k) (r : AuditRecord) (ho : o ∈ draws) :
    (j.append (r.on o.1)).Alike draws (k.append (r.on o.2)) :=
  List.rel_append h.evict (List.Forall₂.cons (JournalEntry.Alike.drawn r .pending ho)
    List.Forall₂.nil)

theorem setFirst {es fs : List JournalEntry} (h : List.Forall₂ (JournalEntry.Alike draws) es fs)
    (hid : ∀ {e f : JournalEntry}, e.Alike draws f → (e.record.id = x ↔ f.record.id = y))
    (status : DeliveryStatus) : List.Forall₂ (JournalEntry.Alike draws)
      (Journal.setFirst x status es) (Journal.setFirst y status fs) := by
  induction h with
  | nil => exact List.Forall₂.nil
  | @cons e f _ _ hef hrest ih =>
    unfold Journal.setFirst
    by_cases hx : e.record.id = x
    · rw [if_pos hx, if_pos ((hid hef).mp hx)]
      exact List.Forall₂.cons (hef.with_status status) hrest
    · rw [if_neg hx, if_neg fun hy => hx ((hid hef).mpr hy)]
      exact List.Forall₂.cons hef ih

/-- A delivery that ends marks corresponding entries. -/
theorem setStatus (h : j.Alike draws k)
    (hid : ∀ {e f : JournalEntry}, e.Alike draws f → (e.record.id = x ↔ f.record.id = y))
    (status : DeliveryStatus) : (j.setStatus x status).Alike draws (k.setStatus y status) :=
  List.rel_reverse (setFirst (List.rel_reverse h) hid status)

end Alike

end Journal

end AdminConsole
