import AdminConsole.Proofs.Audit.Accord
import AdminConsole.Proofs.Trail.Course
import AdminConsole.Proofs.Trail.Custom

/-! # The order of the records

The change of the data and the submission of its record are two steps, and
nothing holds the one call back until the other has taken both.  So the trail is
in the order of the submissions, and where two calls overlap this need not be
the order of their changes: the record of a ban may come to stand after that of
the unban that lifted it (`Floor.records_may_overtake`).

What holds is this.  Both logs grow at their end only, and a record is submitted
only after its change is made.  A record that has been submitted when a change is
made stands before the record of that change.  So the newest record of a thing is
that of the last change made to it, if the records of all earlier changes of the
thing had been submitted by then.
-/
namespace AdminConsole

/-! ## Things by their records -/

namespace Deed

/-- The identifier in the target of a deed of the kind. -/
def addressee? (deed : Deed) : ActionKind → Option Uuid
  | .assignRole => deed.assignment?.map Prod.fst
  | .updateSettings => none
  | _ => deed.thing?

/-- The thing that the deed is about. -/
def entity? (deed : Deed) : Option (Section × Option Uuid) :=
  (ActionKind.ofName? deed.action).map fun kind => (kind.place, deed.addressee? kind)

theorem addressee?_of (actor : Uuid) (a : Action) :
    (of actor a).addressee? a.kind = a.addressee? := by
  cases a with
  | assignRole id role =>
      show (of actor (.assignRole id role)).assignment?.map Prod.fst = some id
      rw [assignment?_assignRole]
      rfl
  | updateSettings u => rfl
  | banMember id | editMember id | resolveReport id | dismissReport id | refundPayment id
  | unbanMember id | verifyMember id | deleteMember id | removeContent id | pauseCampaign id
  | resumeCampaign id => exact thing?_of actor rfl

/-- The deed of an action is about the thing that the action is about. -/
theorem entity?_of (actor : Uuid) (a : Action) : (of actor a).entity? = some a.entity := by
  have hkind : ActionKind.ofName? (of actor a).action = some a.kind :=
    ActionKind.ofName?_name a.kind
  unfold entity? Action.entity
  rw [hkind, Option.map_some, addressee?_of]

end Deed

/-- The thing that the record is about. -/
def AuditRecord.entity? (r : AuditRecord) : Option (Section × Option Uuid) := r.deed.entity?

/-- The thing that was changed. -/
def Change.entity (c : Change) : Section × Option Uuid := c.call.action.entity

/-- The record of a change is about the thing that was changed. -/
theorem Submission.Of.entity? {s : Submission} {c : Change} (h : s.Of c) :
    s.record.entity? = some c.entity := by
  unfold AuditRecord.entity?
  rw [h.deed_eq]
  exact Deed.entity?_of _ _

/-! ## The logs grow at their end -/

namespace Moved

variable {f f' : Floor} {m : Move}

theorem changes_grow (h : Moved f m f') : f.changes <+: f'.changes := by
  cases h with
  | mutated hj hrun => exact List.prefix_append _ _
  | _ => exact List.prefix_refl _

theorem trail_grow (h : Moved f m f') : f.trail <+: f'.trail := by
  cases h with
  | submitted occasion hj => exact List.prefix_append _ _
  | _ => exact List.prefix_refl _

end Moved

namespace Floor

theorem changes_grow_run (f : Floor) (moves : List Move) : f.changes <+: (f.run moves).changes := by
  induction moves generalizing f with
  | nil => exact List.prefix_refl _
  | cons m moves ih => exact (f.moved m).changes_grow.trans (ih (f.step m))

theorem trail_grow_run (f : Floor) (moves : List Move) : f.trail <+: (f.run moves).trail := by
  induction moves generalizing f with
  | nil => exact List.prefix_refl _
  | cons m moves ih => exact (f.moved m).trail_grow.trans (ih (f.step m))

/-! ## Records submitted before a change -/

/-- When the change was made, the record had been submitted. -/
def SubmittedBefore (start : Console) (moves : List Move) (s : Submission) (c : Change) : Prop :=
  ∃ before after, moves = before ++ after ∧ s ∈ ((opened start).run before).trail ∧
    c ∉ ((opened start).run before).changes

variable {start : Console} {moves : List Move} {s s' : Submission} {c : Change}

theorem SubmittedBefore.mem_trail (h : SubmittedBefore start moves s c) :
    s ∈ ((opened start).run moves).trail := by
  obtain ⟨before, after, rfl, hs, -⟩ := h
  rw [run_append]
  exact (((opened start).run before).trail_grow_run after).subset hs

/-- A record that had been submitted when a change was made stands before the record of the
change. -/
theorem SubmittedBefore.precedes (h : SubmittedBefore start moves s c)
    (hc : c ∈ ((opened start).run moves).changes) (hs' : s' ∈ ((opened start).run moves).trail)
    (hof : s'.Of c) :
    ∃ older between newer,
      ((opened start).run moves).trail = older ++ s :: between ++ s' :: newer := by
  obtain ⟨before, after, rfl, hs, hnot⟩ := h
  have hbooks : Accounted start ((opened start).run before) := (Accounted.opened start).run before
  have hend : Accounted start ((opened start).run (before ++ after)) :=
    (Accounted.opened start).run (before ++ after)
  rw [run_append] at hc hs' hend ⊢
  obtain ⟨more, hmore⟩ := ((opened start).run before).trail_grow_run after
  have hchanges := ((opened start).run before).changes_grow_run after
  rw [← hmore] at hs' ⊢
  rcases List.mem_append.mp hs' with hin | hin
  · -- Then the change would have been made by then.
    exfalso
    obtain ⟨c', hc', hof'⟩ := hbooks.exists_change hin
    have hnumber : c'.number = c.number := hof'.number.symm.trans hof.number
    have hsame : c' = c :=
      List.inj_on_of_nodup_map hend.changes_nodup (hchanges.subset hc') hc hnumber
    exact hnot (hsame ▸ hc')
  · obtain ⟨older, between, hfirst⟩ := List.append_of_mem hs
    obtain ⟨gap, newer, hsecond⟩ := List.append_of_mem hin
    refine ⟨older, between ++ gap, newer, ?_⟩
    rw [hfirst, hsecond]
    simp only [List.append_assoc, List.cons_append]

/-! ## The journal -/

/-- The journal holds the newest records of the trail, in order. -/
theorem journal_records (hroom : start.outbox.journal.entries.length ≤ Journal.capacity)
    (moves : List Move) :
    ((opened start).run moves).console.outbox.journal.records =
      (start.outbox.journal.records ++
        ((opened start).run moves).trail.map Submission.record).rtake Journal.capacity := by
  have hbooks : Accounted start ((opened start).run moves) := (Accounted.opened start).run moves
  rw [hbooks.records, Journal.records_foldl_append hroom]

/-- What is found first among the newest entries of a journal is the newest of all records that were
ever submitted, if it is found at all. -/
theorem record_of_find?_recent (p : AuditRecord → Bool) {j : Journal}
    {older newer : List AuditRecord} {record : AuditRecord}
    (hj : j.records = (older ++ record :: newer).rtake Journal.capacity) (hp : p record = true)
    (hnewer : ∀ r ∈ newer, p r = false) {k : Nat} {e : JournalEntry}
    (hfind : (j.recent k).find? (fun e => p e.record) = some e) : e.record = record := by
  have hfound : ((j.recent k).map JournalEntry.record).find? p = some e.record := by
    rw [List.find?_map]
    have hcomp : (p ∘ JournalEntry.record) = fun e => p e.record := rfl
    rw [hcomp, hfind]
    rfl
  have hrecent : (j.recent k).map JournalEntry.record =
      (((older ++ record :: newer).rtake Journal.capacity).rtake k).reverse := by
    rw [Journal.recent_eq_reverse_rtake, List.map_reverse, Journal.map_rtake]
    exact congrArg (fun rs => (List.rtake rs k).reverse) hj
  have hearly : (j.recent k).map JournalEntry.record <+: (older ++ record :: newer).reverse := by
    rw [hrecent, List.reverse_prefix]
    exact (List.drop_suffix _ _).trans (List.drop_suffix _ _)
  have hall := hearly.find?_eq_some hfound
  have hnone : newer.reverse.find? p = none := by
    rw [List.find?_eq_none]
    intro r hr
    rw [hnewer r (List.mem_reverse.mp hr)]
    decide
  rw [List.reverse_append, List.reverse_cons, List.append_assoc, List.find?_append, hnone,
    Option.none_or, List.singleton_append, List.find?_cons_of_pos hp] at hall
  exact (Option.some.inj hall).symm

/-- A record that had been submitted when a change was made is not among those after the record of
the change. -/
theorem SubmittedBefore.notMem_after {older newer : List Submission}
    (h : SubmittedBefore start moves s c) (hc : c ∈ ((opened start).run moves).changes)
    (htrail : ((opened start).run moves).trail = older ++ s' :: newer) (hof : s'.Of c) :
    s ∉ newer := by
  intro hlate
  have hbooks : Accounted start ((opened start).run moves) := (Accounted.opened start).run moves
  have hnodup : (older ++ s' :: newer).Nodup := htrail ▸ hbooks.trail_nodup.of_map
  obtain ⟨-, hrest, hapart⟩ := List.nodup_append.mp hnodup
  have hs' : s' ∈ ((opened start).run moves).trail := by
    rw [htrail]
    exact List.mem_append_right older List.mem_cons_self
  obtain ⟨older', between, newer', hsplit⟩ := h.precedes hc hs' hof
  -- The record of the change stands only once in the trail, so the two splits of it are the same.
  have hsides : older ++ s' :: newer = older' ++ s :: between ++ s' :: newer' :=
    htrail.symm.trans hsplit
  have holder : s' ∉ older := fun hmem => hapart s' hmem s' List.mem_cons_self rfl
  have hnewer : s' ∉ newer := (List.nodup_cons.mp hrest).1
  obtain ⟨hleft, -, -⟩ := (List.append_cons_inj_of_notMem holder hnewer).mp hsides
  have hearly : s ∈ older := by
    rw [hleft]
    exact List.mem_append_right older' List.mem_cons_self
  exact hapart s hearly s (List.mem_cons_of_mem s' hlate) rfl

/-- No record of the thing comes after that of its last change. -/
theorem entity?_ne_of_last {earlier later : List Change} {older newer : List Submission}
    (hchanges : ((opened start).run moves).changes = earlier ++ c :: later)
    (hlast : ∀ c₁ ∈ later, c₁.entity ≠ c.entity)
    (hearlier : ∀ c₀ ∈ earlier, c₀.entity = c.entity →
      ∃ s₀, s₀.Of c₀ ∧ SubmittedBefore start moves s₀ c)
    (htrail : ((opened start).run moves).trail = older ++ s :: newer) (hof : s.Of c) :
    ∀ s₁ ∈ newer, s₁.record.entity? ≠ some c.entity := by
  intro s₁ hs₁ hentity
  have hbooks : Accounted start ((opened start).run moves) := (Accounted.opened start).run moves
  have hunique : ∀ {s₂ : Submission}, s₂ ∈ ((opened start).run moves).trail →
      s₁.number = s₂.number → s₁ = s₂ := by
    intro s₂ hs₂ hnumber
    have hs₁' : s₁ ∈ ((opened start).run moves).trail := by
      rw [htrail]
      exact List.mem_append_right older (List.mem_cons_of_mem s hs₁)
    exact List.inj_on_of_nodup_map hbooks.trail_nodup hs₁' hs₂ hnumber
  have hc : c ∈ ((opened start).run moves).changes := by
    rw [hchanges]
    exact List.mem_append_right earlier List.mem_cons_self
  obtain ⟨c₁, hc₁, hof₁⟩ := hbooks.exists_change (s := s₁) <| by
    rw [htrail]
    exact List.mem_append_right older (List.mem_cons_of_mem s hs₁)
  have hsame : c₁.entity = c.entity := Option.some.inj (hof₁.entity?.symm.trans hentity)
  rw [hchanges] at hc₁
  rcases List.mem_append.mp hc₁ with hin | hin
  · -- An earlier change has its record before that of the last one.
    obtain ⟨s₀, hof₀, hbefore⟩ := hearlier c₁ hin hsame
    obtain rfl := hunique hbefore.mem_trail (hof₁.number.trans hof₀.number.symm)
    exact hbefore.notMem_after hc htrail hof hs₁
  · rcases List.mem_cons.mp hin with rfl | hin
    · have hs : s ∈ ((opened start).run moves).trail := by
        rw [htrail]
        exact List.mem_append_right older List.mem_cons_self
      obtain rfl := hunique hs (hof₁.number.trans hof.number.symm)
      have hrest := (List.nodup_append.mp (htrail ▸ hbooks.trail_nodup.of_map)).2.1
      exact (List.nodup_cons.mp hrest).1 hs₁
    · exact hlast c₁ hin hsame

/-- **The journal tells what happened in the order in which it was told.**  It holds the newest
records in the order of their submissions, and whenever a record has been submitted, its change has
been made.  A record that had been submitted when a change was made stands before the record of that
change, as long as the journal holds both.  So if, when a thing was changed last, all earlier
changes of it had been recorded, then the newest record of the thing among however many is that of
its last change. -/
theorem records_in_order (start : Console)
    (hroom : start.outbox.journal.entries.length ≤ Journal.capacity) (moves : List Move) :
    let f := (opened start).run moves
    f.console.outbox.journal.records =
      (start.outbox.journal.records ++ f.trail.map Submission.record).rtake Journal.capacity ∧
    (∀ before after, moves = before ++ after → ∀ s ∈ ((opened start).run before).trail,
      ∃ c ∈ ((opened start).run before).changes, s.Of c) ∧
    (∀ s₀ s c, SubmittedBefore start moves s₀ c → c ∈ f.changes → s ∈ f.trail → s.Of c →
      ∃ older between newer, f.trail = older ++ s₀ :: between ++ s :: newer ∧
        (between.length + newer.length + 2 ≤ Journal.capacity →
          ∃ oldest, f.console.outbox.journal.records =
            oldest ++ (s₀ :: between ++ s :: newer).map Submission.record)) ∧
    (∀ earlier c later, f.changes = earlier ++ c :: later →
      (∀ c₁ ∈ later, c₁.entity ≠ c.entity) →
      (∀ c₀ ∈ earlier, c₀.entity = c.entity → ∃ s₀, s₀.Of c₀ ∧ SubmittedBefore start moves s₀ c) →
      ∀ s ∈ f.trail, s.Of c → ∀ k e,
        (f.console.outbox.journal.recent k).find?
          (fun e => decide (e.record.entity? = some c.entity)) = some e → e.record = s.record) := by
  intro f
  have hjournal := journal_records hroom moves
  refine ⟨hjournal, ?_, ?_, ?_⟩
  · intro before after _ s hs
    have hbooks : Accounted start ((opened start).run before) := (Accounted.opened start).run before
    exact hbooks.exists_change hs
  · intro s₀ s c hbefore hc hs hof
    obtain ⟨older, between, newer, htrail⟩ := hbefore.precedes hc hs hof
    refine ⟨older, between, newer, htrail, fun hshort => ?_⟩
    have hend : ((s₀ :: between ++ s :: newer).map Submission.record).length ≤
        Journal.capacity := by
      rw [List.length_map, List.length_append, List.length_cons, List.length_cons]
      omega
    obtain ⟨oldest, hcut⟩ := Journal.rtake_append_of_le
      (start.outbox.journal.records ++ older.map Submission.record) hend
    refine ⟨oldest, ?_⟩
    rw [hjournal, ← hcut, htrail, List.append_assoc, List.append_assoc, List.map_append]
  · intro earlier c later hchanges hlast hearlier s hs hof k e hfind
    obtain ⟨older, newer, htrail⟩ := List.append_of_mem hs
    have hnewer := entity?_ne_of_last hchanges hlast hearlier htrail hof
    have hwindow : f.console.outbox.journal.records =
        (start.outbox.journal.records ++ older.map Submission.record ++
          s.record :: newer.map Submission.record).rtake Journal.capacity := by
      rw [hjournal, htrail, List.map_append, List.append_assoc]
      rfl
    refine record_of_find?_recent (fun r => decide (r.entity? = some c.entity)) hwindow
      (decide_eq_true hof.entity?) ?_ hfind
    intro r hr
    obtain ⟨s₁, hs₁, rfl⟩ := List.mem_map.mp hr
    exact decide_eq_false (hnewer s₁ hs₁)

/-! ## A ban and an unban -/

/-- A call for an action on a member. -/
def sampleCall (a : Action) : Call where
  actor := { id := Sample.operatorId 1, role := .owner }
  origin := { ip := "127.0.0.1", device := "Firefox" }
  action := a

/-- What is given to the first, second, ... action. -/
def sampleOccasion (n : Nat) : Occasion := { now := Sample.daysAgo (-n), recordId := .ofNat n }

/-- A member is banned, and then the ban is lifted. -/
def sampleTurns : List Move :=
  wholeCall (sampleCall (.banMember (Sample.memberId 3) none)) 0 (sampleOccasion 0) ++
    wholeCall (sampleCall (.unbanMember (Sample.memberId 3))) 1 (sampleOccasion 1)

/-- A member is banned.  Before the record of this is submitted, the ban is lifted and the record of
that submitted. -/
def sampleOvertaking : List Move :=
  [.ask (sampleCall (.banMember (Sample.memberId 3) none)), .turn 0 .check, .turn 0 .spawn,
    .turn 0 (.mutate (sampleOccasion 0).now),
    .ask (sampleCall (.unbanMember (Sample.memberId 3))), .turn 1 .check, .turn 1 .spawn,
    .turn 1 (.mutate (sampleOccasion 1).now), .turn 1 (.submit (sampleOccasion 1)),
    .turn 0 (.submit (sampleOccasion 0))]

/-- The newest record of the member is that of the unban. -/
theorem records_in_order_sampleTurns :
    let f := (opened Console.sample).run sampleTurns
    Console.sample.outbox.journal.entries.length ≤ Journal.capacity ∧
    ∀ k e, (f.console.outbox.journal.recent k).find? (fun e =>
        decide (e.record.entity? = some (.members, some (Sample.memberId 3)))) = some e →
      e.record.action = "users.unban" := by
  intro f
  have hroom : Console.sample.outbox.journal.entries.length ≤ Journal.capacity := by decide
  refine ⟨hroom, ?_⟩
  let early := (opened Console.sample).run
    (wholeCall (sampleCall (.banMember (Sample.memberId 3) none)) 0 (sampleOccasion 0))
  obtain ⟨c₀, c₁, s₀, s₁, hchanges, htrail, hof₀, hof₁, hearly, hmade, hnew, hentity, hunban⟩ :
      ∃ (c₀ c₁ : Change) (s₀ s₁ : Submission), f.changes = [c₀] ++ c₁ :: [] ∧
        f.trail = [s₀, s₁] ∧ s₀.Of c₀ ∧ s₁.Of c₁ ∧ early.trail = [s₀] ∧ early.changes = [c₀] ∧
        c₁.number ≠ c₀.number ∧ c₁.entity = (.members, some (Sample.memberId 3)) ∧
        s₁.record.action = "users.unban" :=
    ⟨_, _, _, _, rfl, rfl, ⟨rfl, rfl, rfl, rfl, rfl, rfl⟩, ⟨rfl, rfl, rfl, rfl, rfl, rfl⟩, rfl, rfl,
      by decide, rfl, rfl⟩
  have hbefore : SubmittedBefore Console.sample sampleTurns s₀ c₁ := by
    refine ⟨_, _, rfl, hearly ▸ List.mem_singleton_self s₀, ?_⟩
    intro hmem
    have hsame : c₁ = c₀ := List.mem_singleton.mp (hmade ▸ hmem)
    exact hnew (congrArg Change.number hsame)
  have hearlier : ∀ c ∈ [c₀], c.entity = c₁.entity →
      ∃ s, s.Of c ∧ SubmittedBefore Console.sample sampleTurns s c₁ := by
    intro c hc _
    rw [List.mem_singleton.mp hc]
    exact ⟨s₀, hof₀, hbefore⟩
  have hs₁ : s₁ ∈ f.trail := by
    rw [htrail]
    exact List.mem_cons_of_mem _ (List.mem_singleton_self s₁)
  have hnone : ∀ c ∈ ([] : List Change), c.entity ≠ c₁.entity := by
    intro c hc
    cases hc
  intro k e hfind
  rw [← hentity] at hfind
  rw [(records_in_order Console.sample hroom sampleTurns).2.2.2 [c₀] c₁ [] hchanges hnone hearlier
    s₁ hs₁ hof₁ k e hfind]
  exact hunban

/-- The ban was lifted, and the newest record of the member says that it is banned. -/
theorem records_may_overtake :
    let f := (opened Console.sample).run sampleOvertaking
    ∃ (c c' : Change) (s s' : Submission), f.changes = [c, c'] ∧ f.trail = [s', s] ∧
      s.Of c ∧ s'.Of c' ∧ c.entity = c'.entity ∧
      f.console.outbox.journal.records = [s'.record, s.record] ∧
      (f.console.outbox.journal.recent 1).map JournalEntry.record = [s.record] ∧
      c.call.action = .banMember (Sample.memberId 3) none ∧
      c'.call.action = .unbanMember (Sample.memberId 3) := by
  intro f
  refine ⟨_, _, _, _, rfl, rfl, ?_, ?_, rfl, rfl, rfl, rfl, rfl⟩
  · exact ⟨rfl, rfl, rfl, rfl, rfl, rfl⟩
  · exact ⟨rfl, rfl, rfl, rfl, rfl, rfl⟩

end Floor

end AdminConsole
