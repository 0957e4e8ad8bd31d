import AdminConsole.Proofs.Action.Frame
import AdminConsole.Proofs.Trail.Course
import Mathlib.Data.Option.Basic

/-! # Fields that answer to each other

Several fields of a thing tell one fact together: a ban and its reason, a
refund with its time and its reason, the end of a report with its handler and
its note.  The program writes them one by one, in different actions.  A thing
is **coherent** when they agree, and when no remark is blank.

Each clause speaks of one thing, and an action changes one thing of its section
at most.  So it is enough that what an action makes of a coherent thing is
coherent again, and for every other thing of every section there is nothing to
show.
-/
namespace AdminConsole

namespace Text

/-- Some character of the text is no blank. -/
def HasContent (s : String) : Prop := ∃ c ∈ s.toList, isBlank c = false

instance (s : String) : Decidable (HasContent s) :=
  List.decidableBEx (fun c => isBlank c = false) s.toList

/-- A remark that is kept is no blank one. -/
theorem hasContent_of_mem_nonblank {remark : Option String} :
    ∀ s ∈ nonblank remark, HasContent s := by
  intro s hs
  have hblank : ¬ IsBlankText s := by
    simpa using (Option.mem_filter_iff.mp hs).2
  unfold IsBlankText at hblank
  push Not at hblank
  obtain ⟨c, hc, hne⟩ := hblank
  exact ⟨c, hc, Bool.eq_false_iff.mpr hne⟩

end Text

/-! ## Coherent things -/

/-- An active member has no reason for a ban, and a reason says something. -/
structure Member.Coherent (m : Member) : Prop where
  reasonless : m.status = .active → m.banReason = none
  worded : ∀ s ∈ m.banReason, Text.HasContent s

/-- A report that is closed or whose content is down has a handler; only a closed one has a note,
and a note says something. -/
structure Report.Coherent (r : Report) : Prop where
  closed_handled : r.status ≠ .opened → r.handledBy.isSome
  removed_handled : r.contentRemoved = true → r.handledBy.isSome
  noted_closed : r.resolutionNote.isSome → r.status ≠ .opened
  worded : ∀ s ∈ r.resolutionNote, Text.HasContent s

/-- A payment is refunded just if it says when; only a refunded one says why, and then it says
something. -/
structure Payment.Coherent (p : Payment) : Prop where
  refunded_iff : p.status = .refunded ↔ p.refundedAt.isSome
  reasoned_refunded : p.refundReason.isSome → p.status = .refunded
  worded : ∀ s ∈ p.refundReason, Text.HasContent s

/-- All members, reports and payments are coherent. -/
structure Data.Coherent (d : Data) : Prop where
  members : ∀ m ∈ d.members, m.Coherent
  reports : ∀ r ∈ d.reports, r.Coherent
  payments : ∀ p ∈ d.payments, p.Coherent

instance (m : Member) : Decidable m.Coherent :=
  decidable_of_iff ((m.status = .active → m.banReason = none) ∧
      ∀ s ∈ m.banReason, Text.HasContent s)
    ⟨fun h => ⟨h.1, h.2⟩, fun h => ⟨h.reasonless, h.worded⟩⟩

instance (r : Report) : Decidable r.Coherent :=
  decidable_of_iff ((r.status ≠ .opened → r.handledBy.isSome) ∧
      (r.contentRemoved = true → r.handledBy.isSome) ∧
      (r.resolutionNote.isSome → r.status ≠ .opened) ∧
      ∀ s ∈ r.resolutionNote, Text.HasContent s)
    ⟨fun h => ⟨h.1, h.2.1, h.2.2.1, h.2.2.2⟩,
      fun h => ⟨h.closed_handled, h.removed_handled, h.noted_closed, h.worded⟩⟩

instance (p : Payment) : Decidable p.Coherent :=
  decidable_of_iff ((p.status = .refunded ↔ p.refundedAt.isSome) ∧
      (p.refundReason.isSome → p.status = .refunded) ∧
      ∀ s ∈ p.refundReason, Text.HasContent s)
    ⟨fun h => ⟨h.1, h.2.1, h.2.2⟩, fun h => ⟨h.refunded_iff, h.reasoned_refunded, h.worded⟩⟩

/-- The console starts with coherent things. -/
theorem Data.coherent_sample : Sample.data.Coherent := by
  constructor <;> decide

/-! ## What an action makes of a coherent thing -/

namespace Member.Coherent

variable {m : Member}

theorem afterBan (reason : Option String) : (m.afterBan reason).Coherent where
  reasonless h := by cases h
  worded := Text.hasContent_of_mem_nonblank

theorem afterUnban : m.afterUnban.Coherent where
  reasonless _ := rfl
  worded s hs := by cases hs

theorem afterVerify (h : m.Coherent) : m.afterVerify.Coherent := ⟨h.reasonless, h.worded⟩

theorem applyTo (u : MemberUpdate) (h : m.Coherent) : (u.applyTo m).Coherent :=
  ⟨h.reasonless, h.worded⟩

end Member.Coherent

namespace Report.Coherent

variable {r : Report} (handler : Uuid)

theorem afterClose {status : ReportStatus} (hstatus : status ≠ .opened) (note : Option String) :
    (r.afterClose status handler note).Coherent where
  closed_handled _ := rfl
  removed_handled _ := rfl
  noted_closed _ := hstatus
  worded := Text.hasContent_of_mem_nonblank

/-- Content is taken down without a word about the rest; an open report stays without a note. -/
theorem afterTakeDown (h : r.Coherent) : (r.afterTakeDown handler).Coherent where
  closed_handled _ := rfl
  removed_handled _ := rfl
  noted_closed := h.noted_closed
  worded := h.worded

end Report.Coherent

theorem Payment.Coherent.afterRefund {p : Payment} (now : Instant) (reason : Option String) :
    (p.afterRefund now reason).Coherent where
  refunded_iff := ⟨fun _ => rfl, fun _ => rfl⟩
  reasoned_refunded _ := rfl
  worded := Text.hasContent_of_mem_nonblank

/-! ## Performed actions -/

namespace Action.Effect

variable {actor : Uuid} {now : Instant} {a : Action} {d d' : Data} {result : Affected}

theorem members_coherent (h : a.Effect actor now d result d') (hd : ∀ m ∈ d.members, m.Coherent) :
    ∀ m ∈ d'.members, m.Coherent := by
  by_cases hplace : a.kind.place = .members
  · cases a with
    | banMember id reason =>
      exact Listing.Turned.forall_mem h (fun m _ _ => Member.Coherent.afterBan reason) hd
    | unbanMember id =>
      exact Listing.Turned.forall_mem h (fun m _ _ => Member.Coherent.afterUnban) hd
    | verifyMember id => exact Listing.Turned.forall_mem h (fun m _ hm => hm.afterVerify) hd
    | editMember id u => exact Listing.Turned.forall_mem h.2 (fun m _ hm => hm.applyTo u) hd
    | deleteMember id =>
      obtain ⟨m, hm, -⟩ := h
      exact hm.forall_mem hd
    | _ => cases hplace
  · rw [h.beside.members hplace]
    exact hd

theorem reports_coherent (h : a.Effect actor now d result d') (hd : ∀ r ∈ d.reports, r.Coherent) :
    ∀ r ∈ d'.reports, r.Coherent := by
  by_cases hplace : a.kind.place = .reports
  · cases a with
    | resolveReport id note =>
      refine Listing.Turned.forall_mem h (fun r _ _ => ?_) hd
      exact Report.Coherent.afterClose actor (fun he => by cases he) note
    | dismissReport id note =>
      refine Listing.Turned.forall_mem h (fun r _ _ => ?_) hd
      exact Report.Coherent.afterClose actor (fun he => by cases he) note
    | removeContent id =>
      exact Listing.Turned.forall_mem h (fun r _ hr => hr.afterTakeDown actor) hd
    | _ => cases hplace
  · rw [h.beside.reports hplace]
    exact hd

theorem payments_coherent (h : a.Effect actor now d result d')
    (hd : ∀ p ∈ d.payments, p.Coherent) : ∀ p ∈ d'.payments, p.Coherent := by
  by_cases hplace : a.kind.place = .payments
  · cases a with
    | refundPayment id reason =>
      exact Listing.Turned.forall_mem h (fun p _ _ => Payment.Coherent.afterRefund now reason) hd
    | _ => cases hplace
  · rw [h.beside.payments hplace]
    exact hd

/-- A performed action leaves coherent data coherent. -/
theorem coherent (h : a.Effect actor now d result d') (hd : d.Coherent) : d'.Coherent where
  members := h.members_coherent hd.members
  reports := h.reports_coherent hd.reports
  payments := h.payments_coherent hd.payments

end Action.Effect

/-- Coherent data stays coherent. -/
theorem Data.Leads.coherent {d e : Data} (h : d.Leads e) (hd : d.Coherent) : e.Coherent :=
  h.keeps (fun heffect hcoherent => heffect.coherent hcoherent) hd

namespace Console

/-- **The fields of a thing agree in every state.**  The console starts with coherent data.  From
there, or from any other coherent data, however calls interleave and whichever orders are obeyed,
every member, every report and every payment is coherent. -/
theorem things_stay_coherent :
    Sample.data.Coherent ∧ ∀ start : Console, start.data.Coherent →
      (∀ moves, ((Floor.opened start).run moves).console.data.Coherent) ∧
      ∀ orders, (start.obeyAll orders).data.Coherent := by
  refine ⟨Data.coherent_sample, fun start hstart => ⟨fun moves => ?_, fun orders => ?_⟩⟩
  · exact (Floor.leads_run start moves).coherent hstart
  · exact (leads_obeyAll start orders).coherent hstart

/-- A ban for a blank reason; content is taken down, and the report then closed by somebody else
with a blank note; a refund for a blank reason and one for a good one. -/
def sampleRemarks : List Order :=
  let order (operator : Nat) (a : Action) : Order :=
    { actor := { id := Sample.operatorId operator, role := .owner }
      origin := { ip := "127.0.0.1", device := "Firefox" }
      occasion := { now := Sample.daysAgo 0, recordId := .ofNat 1 }
      action := a }
  [order 1 (.banMember (Sample.memberId 1) (some " \t")),
    order 3 (.removeContent (Sample.reportId 1)),
    order 4 (.resolveReport (Sample.reportId 1) (some "")),
    order 5 (.refundPayment (Sample.paymentId 1) (some " ")),
    order 5 (.refundPayment (Sample.paymentId 2) (some "Bought twice"))]

theorem things_stay_coherent_sampleRemarks :
    sample.data.Coherent ∧ (sample.trail sampleRemarks).length = 5 ∧
      (sample.obeyAll sampleRemarks).data.Coherent :=
  ⟨Data.coherent_sample, by decide,
    (things_stay_coherent.2 sample things_stay_coherent.1).2 sampleRemarks⟩

end Console

end AdminConsole
