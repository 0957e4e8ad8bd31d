import AdminConsole.Proofs.Audit.Accord
import AdminConsole.Proofs.Audit.Outbox

/-! # The outbox as a depot

The outbox has its own order of doing things: an agenda by the second, a clock,
and callers that wait.  All of it is one of the orders that a depot allows.
Whatever is done with an outbox, there is a run of a depot to which the same
records are submitted and in which the journal and the reports are the same
(`Outbox.exists_moves`); so what holds in all runs of depots holds of outboxes.
-/
namespace AdminConsole

namespace Outbox

/-- The deliveries under way. -/
def parcels (o : Outbox) : List Parcel := o.agenda.map Prod.snd ++ o.held

/-- The outbox and the depot have the same journal, and tell the same of every delivery. -/
structure Tracks (o : Outbox) (d : Depot) : Prop where
  policy : d.policy = o.policy
  journal : d.journal = o.journal
  nextTask : d.deliveries.length = o.nextTask
  underway : ∀ p ∈ o.parcels, d.deliveries[p.task]? = some ⟨p.record, .trying p.attempt⟩
  distinct : (o.parcels.map Parcel.task).Nodup
  reports : ∀ task, o.report? task = (d.deliveries[task]?).bind fun v => v.stage.report?

/-- The outbox comes to `o'` in a way that a depot allows, and without a submission. -/
def Reaches (o o' : Outbox) : Prop :=
  ∀ d, o.Tracks d → ∃ moves, Depot.Move.records moves = [] ∧ o'.Tracks (d.run moves)

namespace Reaches

variable {o o' o'' : Outbox}

theorem refl (o : Outbox) : o.Reaches o := fun _ h => ⟨[], rfl, h⟩

theorem trans (h : o.Reaches o') (h' : o'.Reaches o'') : o.Reaches o'' := by
  intro d hd
  obtain ⟨moves, hmoves, hd'⟩ := h d hd
  obtain ⟨more, hmore, hd''⟩ := h' _ hd'
  refine ⟨moves ++ more, ?_, by rwa [Depot.run_append]⟩
  rw [Depot.Move.records_append, hmoves, hmore, List.append_nil]

/-- What no delivery and no report sees may change at will. -/
theorem of_eq (hpolicy : o'.policy = o.policy) (hjournal : o'.journal = o.journal)
    (hnext : o'.nextTask = o.nextTask) (hparcels : o'.parcels.Perm o.parcels)
    (hreports : o'.reports = o.reports) : o.Reaches o' := by
  intro d h
  refine ⟨[], rfl, ?_⟩
  exact {
    policy := h.policy.trans hpolicy.symm
    journal := h.journal.trans hjournal.symm
    nextTask := h.nextTask.trans hnext.symm
    underway := fun p hp => h.underway p (hparcels.mem_iff.mp hp)
    distinct := (hparcels.map Parcel.task).nodup_iff.mpr h.distinct
    reports := fun task => by
      rw [report?, hreports]
      exact h.reports task }

end Reaches

namespace Tracks

variable {o : Outbox} {d : Depot} {p : Parcel}

theorem idle (policy : RetryPolicy) (channel : Channel) :
    (Outbox.idle policy channel).Tracks (Depot.opened policy) where
  policy := rfl
  journal := rfl
  nextTask := rfl
  underway := by
    intro p hp
    cases hp
  distinct := List.nodup_nil
  reports _ := rfl

theorem submit (h : o.Tracks d) (r : AuditRecord) : (o.submit r).2.Tracks (d.submit r) := by
  have hparcels : (o.submit r).2.parcels.Perm
      ({ task := o.nextTask, record := r, attempt := 1 } :: o.parcels) := by
    have hagenda := (schedule_perm o.clock { task := o.nextTask, record := r, attempt := 1 }
      o.agenda).map Prod.snd
    exact hagenda.append_right o.held
  -- Numbers are given in order, so nothing under way has the one that is given next.
  have hold : ∀ q ∈ o.parcels, q.task < o.nextTask := by
    intro q hq
    rw [← h.nextTask]
    exact (List.getElem?_eq_some_iff.mp (h.underway q hq)).1
  exact {
    policy := h.policy
    journal := congrArg (Journal.append · r) h.journal
    nextTask := by
      show (d.deliveries ++ [_]).length = o.nextTask + 1
      rw [List.length_append, List.length_singleton, h.nextTask]
    underway := by
      intro q hq
      show (d.deliveries ++ [_])[q.task]? = _
      rcases List.mem_cons.mp (hparcels.mem_iff.mp hq) with rfl | hq
      · rw [← h.nextTask, List.getElem?_concat_length]
      · rw [List.getElem?_append_left (h.nextTask ▸ hold q hq), h.underway q hq]
    distinct := by
      refine (hparcels.map Parcel.task).nodup_iff.mpr (List.nodup_cons.mpr ⟨?_, h.distinct⟩)
      intro hmem
      obtain ⟨q, hq, htask⟩ := List.mem_map.mp hmem
      exact absurd htask (Nat.ne_of_lt (hold q hq))
    reports := by
      intro task
      show o.report? task = ((d.deliveries ++ [_])[task]?).bind _
      rw [h.reports task]
      rcases Nat.lt_trichotomy task d.deliveries.length with hlt | rfl | hlt
      · rw [List.getElem?_append_left hlt]
      · rw [List.getElem?_concat_length, List.getElem?_eq_none (Nat.le_refl _)]
        rfl
      · rw [List.getElem?_eq_none (Nat.le_of_lt hlt), List.getElem?_eq_none]
        rw [List.length_append, List.length_singleton]
        omega }

/-- What a delivery does that nobody else has in hand, the others do not feel. -/
theorem set (h : o.Tracks d) {task : Nat} (hlt : task < d.deliveries.length)
    (hfree : task ∉ o.parcels.map Parcel.task) (v : Delivery) :
    (∀ q ∈ o.parcels, (d.deliveries.set task v)[q.task]? = some ⟨q.record, .trying q.attempt⟩) ∧
    ∀ t, ((d.deliveries.set task v)[t]?).bind (fun v => v.stage.report?) =
      if t = task then v.stage.report? else o.report? t := by
  constructor
  · intro q hq
    have hne : task ≠ q.task := fun he => hfree (he ▸ List.mem_map.mpr ⟨q, hq, rfl⟩)
    rw [List.getElem?_set_ne hne, h.underway q hq]
  · intro t
    split
    · next he =>
      rw [he, List.getElem?_set_self hlt]
      rfl
    · next hne =>
      rw [List.getElem?_set_ne (fun he => hne he.symm), h.reports t]

theorem report?_of_cons {o : Outbox} {task : Nat} {result : DeliveryResult}
    {reports : List (Nat × DeliveryResult)} (h : o.reports = (task, result) :: reports) (t : Nat) :
    o.report? t = if t = task then some result else reports.lookup t := by
  rw [report?, h, List.lookup_cons]
  by_cases he : t = task
  · rw [if_pos he, he, beq_self_eq_true]
  · rw [if_neg he, beq_false_of_ne he]

/-- The delivery in hand ends, and the depot's delivery enters its result. -/
theorem finish (h : o.Tracks d) (hlt : p.task < d.deliveries.length)
    (hfree : p.task ∉ o.parcels.map Parcel.task) (result : DeliveryResult) :
    (o.finish p result).Tracks (d.complete p.task p.record result) where
  policy := h.policy
  journal := congrArg (Journal.setStatus · p.record.id (.ofResult result)) h.journal
  nextTask := by
    show (d.deliveries.set _ _).length = o.nextTask
    rw [List.length_set, h.nextTask]
  underway := (h.set hlt hfree _).1
  distinct := h.distinct
  reports := by
    intro t
    rw [report?_of_cons rfl t]
    exact ((h.set hlt hfree ⟨p.record, .ended result⟩).2 t).symm

/-- The delivery in hand dies. -/
theorem die (h : o.Tracks d) (hlt : p.task < d.deliveries.length)
    (hfree : p.task ∉ o.parcels.map Parcel.task) (reason : String) :
    ({ o with reports := (p.task, .error (.task reason)) :: o.reports } : Outbox).Tracks
      (d.put p.task ⟨p.record, .died reason⟩) where
  policy := h.policy
  journal := h.journal
  nextTask := by
    show (d.deliveries.set _ _).length = o.nextTask
    rw [List.length_set, h.nextTask]
  underway := (h.set hlt hfree _).1
  distinct := h.distinct
  reports := by
    intro t
    rw [report?_of_cons rfl t]
    exact ((h.set hlt hfree ⟨p.record, .died reason⟩).2 t).symm

/-- The delivery in hand is put back for another attempt. -/
theorem putBack (h : o.Tracks d) {o' : Outbox} {q : Parcel}
    (hlt : q.task < d.deliveries.length) (hfree : q.task ∉ o.parcels.map Parcel.task)
    (hsame : o' = { o with agenda := o'.agenda, held := o'.held })
    (hparcels : o'.parcels.Perm (q :: o.parcels)) (hreport : o.report? q.task = none) :
    o'.Tracks (d.put q.task ⟨q.record, .trying q.attempt⟩) := by
  have hset := h.set hlt hfree ⟨q.record, .trying q.attempt⟩
  rw [hsame] at hparcels ⊢
  exact {
    policy := h.policy
    journal := h.journal
    nextTask := by
      show (d.deliveries.set _ _).length = o.nextTask
      rw [List.length_set, h.nextTask]
    underway := by
      intro x hx
      rcases List.mem_cons.mp (hparcels.mem_iff.mp hx) with rfl | hx
      · exact List.getElem?_set_self hlt
      · exact hset.1 x hx
    distinct :=
      (hparcels.map Parcel.task).nodup_iff.mpr (List.nodup_cons.mpr ⟨hfree, h.distinct⟩)
    reports := by
      intro t
      refine Eq.trans ?_ (hset.2 t).symm
      show o.report? t = _
      split
      · next he => rw [he, hreport]; rfl
      · rfl }

/-- However the attempt of the delivery in hand ends, the depot can do the same. -/
theorem conclude (h : o.Tracks d)
    (hp : d.deliveries[p.task]? = some ⟨p.record, .trying p.attempt⟩)
    (hfree : p.task ∉ o.parcels.map Parcel.task) (outcome : Except DeliveryError Unit) :
    ∃ moves, Depot.Move.records moves = [] ∧ (o.conclude p outcome).Tracks (d.run moves) := by
  have hlt : p.task < d.deliveries.length := (List.getElem?_eq_some_iff.mp hp).1
  have hstep := Depot.step_attempt hp (.returned outcome)
  rw [h.policy] at hstep
  unfold Outbox.conclude
  split
  · next result hv =>
    -- The outbox decides and enters the result at once, which is two moves of the depot.
    rw [DeliveryStage.after_finished hv] at hstep
    have hdecided : (d.put p.task ⟨p.record, .decided result⟩).deliveries[p.task]? =
        some ⟨p.record, .decided result⟩ := List.getElem?_set_self hlt
    refine ⟨[.attempt p.task (.returned outcome), .complete p.task], rfl, ?_⟩
    rw [Depot.run_cons, Depot.run_cons, Depot.run_nil, hstep, Depot.step_complete hdecided]
    have hboth : (d.put p.task ⟨p.record, .decided result⟩).complete p.task p.record result =
        d.complete p.task p.record result := by
      simp only [Depot.put, Depot.complete, List.set_set]
    rw [hboth]
    exact h.finish hlt hfree result
  · next delay hmore hv =>
    rw [DeliveryStage.after_retry hv] at hstep
    refine ⟨[.attempt p.task (.returned outcome)], rfl, ?_⟩
    rw [Depot.run_cons, Depot.run_nil, hstep]
    have hnone : o.report? p.task = none := by
      rw [h.reports, hp]
      rfl
    refine h.putBack (q := { p with attempt := p.attempt + 1 }) hlt hfree rfl ?_ hnone
    show (List.map Prod.snd _ ++ o.held).Perm _
    split
    · exact List.Perm.refl _
    · exact ((schedule_perm _ _ _).map Prod.snd).append_right o.held

/-- The delivery in hand makes its attempt. -/
theorem attempt (h : o.Tracks d)
    (hp : d.deliveries[p.task]? = some ⟨p.record, .trying p.attempt⟩)
    (hfree : p.task ∉ o.parcels.map Parcel.task) :
    ∃ moves, Depot.Move.records moves = [] ∧ (o.attempt p).Tracks (d.run moves) := by
  have hlt : p.task < d.deliveries.length := (List.getElem?_eq_some_iff.mp hp).1
  unfold Outbox.attempt
  obtain ⟨answer, channel⟩ := o.channel.answer
  -- The channel and the list of attempts are the outbox's own business.
  have hown : ∀ attempts, ({ o with channel := channel, attempts := attempts } : Outbox).Tracks d :=
    fun attempts => ⟨h.policy, h.journal, h.nextTask, h.underway, h.distinct, h.reports⟩
  cases answer with
  | accepted => exact (hown _).conclude hp hfree (.ok ())
  | failed e => exact (hown _).conclude hp hfree (.error e)
  | held =>
    -- The attempt is still going on, so for the depot nothing has happened.
    have hnone : o.report? p.task = none := by
      rw [h.reports, hp]
      rfl
    have hback : d.put p.task ⟨p.record, .trying p.attempt⟩ = d := by
      rw [Depot.put, ← (List.getElem?_eq_some_iff.mp hp).2, List.set_getElem_self]
    refine ⟨[], rfl, ?_⟩
    rw [Depot.run_nil, ← hback]
    refine (hown _).putBack (q := p) hlt hfree rfl ?_ hnone
    show (o.agenda.map Prod.snd ++ (o.held ++ [p])).Perm (p :: (o.agenda.map Prod.snd ++ o.held))
    rw [← List.append_assoc]
    exact List.perm_append_singleton p _
  | fatal =>
    refine ⟨[.attempt p.task (.fatal "the delivery died")], rfl, ?_⟩
    rw [Depot.run_cons, Depot.run_nil, Depot.step_attempt hp]
    exact (hown _).die hlt hfree "the delivery died"

end Tracks

/-! ## Deliveries going on -/

theorem reaches_step (o : Outbox) : o.Reaches o.step := by
  unfold step
  split
  · exact Reaches.refl o
  · next due p rest hagenda =>
    intro d h
    have hparcels : o.parcels = p :: (rest.map Prod.snd ++ o.held) := by
      rw [parcels, hagenda]
      rfl
    have hdistinct := h.distinct
    rw [hparcels, List.map_cons, List.nodup_cons] at hdistinct
    have hhand : ({ o with agenda := rest, clock := max o.clock due } : Outbox).Tracks d := {
      h with
      underway := fun q hq => h.underway q (hparcels ▸ List.mem_cons_of_mem p hq)
      distinct := hdistinct.2 }
    exact hhand.attempt (h.underway p (hparcels ▸ List.mem_cons_self)) hdistinct.1

theorem reaches_releaseOne (o : Outbox) : o.Reaches o.releaseOne := by
  unfold releaseOne
  split
  · exact Reaches.refl o
  · next p rest hheld =>
    intro d h
    have hparcels : o.parcels.Perm (p :: (o.agenda.map Prod.snd ++ rest)) := by
      rw [parcels, hheld]
      exact List.perm_middle
    have hdistinct := (hparcels.map Parcel.task).nodup_iff.mp h.distinct
    rw [List.map_cons, List.nodup_cons] at hdistinct
    have hhand : ({ o with held := rest } : Outbox).Tracks d := {
      h with
      underway := fun q hq => h.underway q (hparcels.mem_iff.mpr (List.mem_cons_of_mem p hq))
      distinct := hdistinct.2 }
    exact hhand.conclude (h.underway p (hparcels.mem_iff.mpr List.mem_cons_self)) hdistinct.1 _

theorem reaches_run (n : Nat) (o : Outbox) : o.Reaches (run n o) := by
  induction n generalizing o with
  | zero => exact Reaches.refl o
  | succ n ih => exact o.reaches_step.trans (ih o.step)

theorem reaches_release (n : Nat) (o : Outbox) : o.Reaches (release n o) := by
  induction n generalizing o with
  | zero => exact reaches_run _ o
  | succ n ih => exact o.reaches_releaseOne.trans (ih o.releaseOne)

theorem reaches_takeTurns (second fuel turns : Nat) (o : Outbox) :
    o.Reaches (takeTurns second fuel turns o) := by
  fun_induction takeTurns second fuel turns o with
  | case1 => exact Reaches.refl _
  | case2 => next o _ _ _ _ _ _ _ ih => exact (reaches_step o).trans ih
  | case3 => exact Reaches.refl _
  | case4 => exact Reaches.refl _

theorem reaches_runFor (task fuel : Nat) (o : Outbox) : o.Reaches (runFor task fuel o) := by
  induction fuel generalizing o with
  | zero => exact Reaches.refl o
  | succ fuel ih =>
    unfold runFor
    split
    · exact (reaches_takeTurns _ _ _ o).trans (ih _)
    · exact Reaches.refl o

theorem reaches_wait (o : Outbox) (task : Nat) : o.Reaches (o.wait task).2 := by
  unfold wait
  split
  · exact (reaches_runFor task _ o).trans
      (Reaches.of_eq rfl rfl rfl (List.Perm.refl _) rfl)
  · exact Reaches.refl o

theorem reaches_extend (o : Outbox) (more : List Answer) :
    o.Reaches { o with channel := o.channel.extend more } :=
  Reaches.of_eq rfl rfl rfl (List.Perm.refl _) rfl

/-! ## Everything that can be done with an outbox -/

/-- What can be done with an outbox. -/
inductive Use
  | submit (r : AuditRecord)
  | step
  | settle
  | releaseOne
  | release (count : Nat)
  | wait (task : Nat)
  | extend (more : List Answer)

/-- The record that is submitted. -/
def Use.record? : Use → Option AuditRecord
  | submit r => some r
  | _ => none

/-- The records that uses submit, in order. -/
def Use.records (uses : List Use) : List AuditRecord := uses.filterMap record?

/-- The outbox after a use of it. -/
def use (o : Outbox) : Use → Outbox
  | .submit r => (o.submit r).2
  | .step => o.step
  | .settle => o.settle
  | .releaseOne => o.releaseOne
  | .release count => release count o
  | .wait task => (o.wait task).2
  | .extend more => { o with channel := o.channel.extend more }

/-- Uses one after the other. -/
def useAll (o : Outbox) (uses : List Use) : Outbox := uses.foldl use o

namespace Tracks

variable {o : Outbox} {d : Depot}

theorem use (h : o.Tracks d) (u : Use) :
    ∃ moves, Depot.Move.records moves = u.record?.toList ∧ (o.use u).Tracks (d.run moves) := by
  cases u with
  | submit r => exact ⟨[.submit r], rfl, h.submit r⟩
  | step => exact o.reaches_step d h
  | settle => exact reaches_run _ o d h
  | releaseOne => exact o.reaches_releaseOne d h
  | release count => exact reaches_release count o d h
  | wait task => exact o.reaches_wait task d h
  | extend more => exact o.reaches_extend more d h

theorem useAll (h : o.Tracks d) (uses : List Use) :
    ∃ moves, Depot.Move.records moves = Use.records uses ∧
      (o.useAll uses).Tracks (d.run moves) := by
  induction uses generalizing o d with
  | nil => exact ⟨[], rfl, h⟩
  | cons u uses ih =>
    obtain ⟨moves, hmoves, hd⟩ := h.use u
    obtain ⟨more, hmore, hd⟩ := ih hd
    refine ⟨moves ++ more, ?_, by rwa [Depot.run_append]⟩
    rw [Depot.Move.records_append, hmoves, hmore, Use.records, Use.records, List.filterMap_cons]
    cases u.record? <;> rfl

end Tracks

/-- **Whatever is done with an outbox, a depot can do the same.** -/
theorem exists_moves (policy : RetryPolicy) (channel : Channel) (uses : List Use) :
    ∃ moves, Depot.Move.records moves = Use.records uses ∧
      ((idle policy channel).useAll uses).Tracks ((Depot.opened policy).run moves) :=
  (Tracks.idle policy channel).useAll uses

end Outbox

end AdminConsole
