import AdminConsole.Audit.Outbox
import AdminConsole.Proofs.Audit.Journal

/-! # Records in the outbox

What a submission does to the outbox, and what a delivery does not: deliveries
mark the entries of the journal, but which records the journal holds, and how
many were ever submitted, only submissions change.  Whoever looks at the journal
and at the name of the channel sees of the deliveries only how each of them ends.
-/
namespace AdminConsole

theorem Channel.name_answer (channel : Channel) : channel.answer.2.name = channel.name := by
  cases channel with
  | log => rfl
  | rehearsed name script => cases script <;> rfl

namespace Outbox

/-! ## Submissions -/

/-- From `o` to `o'` one record was submitted, and nothing else happened: the record is the newest
in the journal, and a delivery of it is due at once under a number of its own. -/
structure Received (o : Outbox) (r : AuditRecord) (o' : Outbox) : Prop where
  journal : o'.journal.entries = o.journal.evict.entries ++ [{ record := r, status := .pending }]
  agenda : o'.agenda.Perm ((o.clock, { task := o.nextTask, record := r, attempt := 1 }) :: o.agenda)
  nextTask : o'.nextTask = o.nextTask + 1
  rest : o' = { o with journal := o'.journal, agenda := o'.agenda, nextTask := o'.nextTask }

theorem schedule_perm (due : Nat) (p : Parcel) (agenda : List (Nat × Parcel)) :
    (schedule due p agenda).Perm ((due, p) :: agenda) := by
  induction agenda with
  | nil => exact List.Perm.refl _
  | cons entry rest ih =>
    obtain ⟨t, q⟩ := entry
    unfold schedule
    split
    · exact (List.Perm.cons _ ih).trans (List.Perm.swap _ _ _)
    · exact List.Perm.refl _

theorem received_submit (o : Outbox) (r : AuditRecord) : o.Received r (o.submit r).2 where
  journal := rfl
  agenda := schedule_perm _ _ _
  nextTask := rfl
  rest := rfl

/-- A submission pushes no record out but the oldest one. -/
theorem Received.records_suffix {o o' : Outbox} {r : AuditRecord} (h : o.Received r o') :
    o'.journal.records <:+ o.journal.records ++ [r] := by
  obtain ⟨older, holder⟩ := o.journal.records_evict_suffix
  refine ⟨older, ?_⟩
  rw [Journal.records, h.journal, List.map_append, ← List.append_assoc, ← holder]
  rfl

/-! ## Deliveries -/

/-- From `o` to `o'` no record was submitted. -/
structure Keeps (o o' : Outbox) : Prop where
  records : o'.journal.records = o.journal.records
  nextTask : o'.nextTask = o.nextTask

namespace Keeps

variable {o o' : Outbox}

theorem refl (o : Outbox) : o.Keeps o := ⟨rfl, rfl⟩

theorem conclude (h : o.Keeps o') (p : Parcel) (outcome : Except DeliveryError Unit) :
    o.Keeps (o'.conclude p outcome) := by
  unfold Outbox.conclude
  split
  · exact ⟨(Journal.records_setStatus _ _ _).trans h.records, h.nextTask⟩
  · exact ⟨h.records, h.nextTask⟩

theorem attempt (h : o.Keeps o') (p : Parcel) : o.Keeps (o'.attempt p) := by
  unfold Outbox.attempt
  obtain ⟨answer, channel⟩ := o'.channel.answer
  cases answer with
  | accepted =>
    refine conclude ?_ p (.ok ())
    exact ⟨h.records, h.nextTask⟩
  | failed e =>
    refine conclude ?_ p (.error e)
    exact ⟨h.records, h.nextTask⟩
  | held => exact ⟨h.records, h.nextTask⟩
  | fatal => exact ⟨h.records, h.nextTask⟩

end Keeps

theorem keeps_step (o : Outbox) : o.Keeps o.step := by
  unfold step
  split
  · exact Keeps.refl o
  · next due p rest _ =>
    refine Keeps.attempt ?_ p
    exact ⟨rfl, rfl⟩

theorem keeps_releaseOne (o : Outbox) : o.Keeps o.releaseOne := by
  unfold releaseOne
  split
  · exact Keeps.refl o
  · next p rest _ =>
    refine Keeps.conclude ?_ p (.ok ())
    exact ⟨rfl, rfl⟩

/-! ## What deliveries show -/

/-- From `o` to `o'` nothing shows but the end of a delivery, if one has ended. -/
structure Shows (o o' : Outbox) : Prop where
  journal : o'.journal = o.journal ∨ ∃ id status, o'.journal = o.journal.setStatus id status
  name : o'.channel.name = o.channel.name

theorem Shows.conclude {o o' : Outbox} (hj : o'.journal = o.journal)
    (hname : o'.channel.name = o.channel.name) (p : Parcel) (outcome : Except DeliveryError Unit) :
    o.Shows (o'.conclude p outcome) := by
  unfold Outbox.conclude
  split
  · next result _ =>
    have hset := congrArg (fun j : Journal => j.setStatus p.record.id (.ofResult result)) hj
    exact ⟨Or.inr ⟨p.record.id, .ofResult result, hset⟩, hname⟩
  · exact ⟨Or.inl hj, hname⟩

theorem Shows.attempt {o o' : Outbox} (hj : o'.journal = o.journal)
    (hname : o'.channel.name = o.channel.name) (p : Parcel) : o.Shows (o'.attempt p) := by
  have hanswer := o'.channel.name_answer.trans hname
  unfold Outbox.attempt
  rcases h : o'.channel.answer with ⟨answer, channel⟩
  rw [h] at hanswer
  cases answer with
  | accepted =>
    refine Shows.conclude ?_ ?_ p (.ok ())
    · exact hj
    · exact hanswer
  | failed e =>
    refine Shows.conclude ?_ ?_ p (.error e)
    · exact hj
    · exact hanswer
  | held => exact ⟨Or.inl hj, hanswer⟩
  | fatal => exact ⟨Or.inl hj, hanswer⟩

theorem shows_step (o : Outbox) : o.Shows o.step := by
  unfold step
  split
  · exact ⟨Or.inl rfl, rfl⟩
  · next due p rest _ =>
    refine Shows.attempt ?_ ?_ p
    · rfl
    · rfl

theorem shows_releaseOne (o : Outbox) : o.Shows o.releaseOne := by
  unfold releaseOne
  split
  · exact ⟨Or.inl rfl, rfl⟩
  · next p rest _ =>
    refine Shows.conclude ?_ ?_ p (.ok ())
    · rfl
    · rfl

end Outbox

end AdminConsole
