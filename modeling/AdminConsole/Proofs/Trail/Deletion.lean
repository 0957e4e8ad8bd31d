import AdminConsole.Proofs.Trail.Becoming

/-! # Which members are gone

An identifier is all that reports, payments and the audit trail know of a
member, so it matters that identifiers stay what they are.  No action gives a
thing a new one, adds a thing or moves one; the only action that takes one away
is the deletion of a member.  So the members of any later state are those of the
start without the deleted ones, in their order, and all other sections list the
same things throughout (`Data.Thinned`).

A deletion leaves the reports and the payments of the member behind, and these
go on to name it.  What they name is then no member any more, but it is never
anything else than a member that was deleted, and the trail has the record.
-/
namespace AdminConsole

/-! ## Identifiers and who is named -/

namespace Data

/-- The identifiers of the members. -/
def memberIds (d : Data) : List Uuid := d.members.map Member.id

/-- The identifiers of everything that the data lists. -/
def ids (d : Data) : List Uuid :=
  d.memberIds ++ (d.reports.map Report.id ++ (d.payments.map Payment.id ++
    (d.campaigns.map Campaign.id ++ d.team.map TeamMember.id)))

/-- The members that reports and payments name, by their identifiers. -/
def named (d : Data) : List Uuid :=
  (d.reports.map fun r => [r.reportedMember, r.reporter]).flatten ++ d.payments.map Payment.member

/-- No two things have one identifier, and whoever is named is a member. -/
structure Linked (d : Data) : Prop where
  distinct : d.ids.Nodup
  resolved : ∀ id ∈ d.named, id ∈ d.memberIds

/-- The console starts with distinct identifiers and names members only. -/
theorem linked_sample : Sample.data.Linked := by
  constructor <;> decide

/-- From `d` to `e` the members with the identifiers `gone` went, and nothing else did. -/
structure Thinned (d : Data) (gone : List Uuid) (e : Data) : Prop where
  distinct : e.ids.Nodup
  members : e.memberIds = d.memberIds.filter (· ∉ gone)
  reports : e.reports.map Report.id = d.reports.map Report.id
  payments : e.payments.map Payment.id = d.payments.map Payment.id
  campaigns : e.campaigns.map Campaign.id = d.campaigns.map Campaign.id
  team : e.team.map TeamMember.id = d.team.map TeamMember.id
  /-- Who is gone was there, and went once. -/
  gone_listed : ∀ id ∈ gone, id ∈ d.memberIds
  gone_nodup : gone.Nodup
  /-- Reports and payments name whom they named. -/
  named : e.named = d.named
  /-- Who is named is a member or is gone, and never both. -/
  resolved : ∀ id ∈ e.named, id ∈ e.memberIds ↔ id ∉ gone

namespace Becomes

variable {d e : Data}

theorem reportIds_eq (h : d.Becomes e) : e.reports.map Report.id = d.reports.map Report.id :=
  map_eq_of_forall₂ (fun _ _ hr => hr.id_eq) h.reports

theorem paymentIds_eq (h : d.Becomes e) : e.payments.map Payment.id = d.payments.map Payment.id :=
  map_eq_of_forall₂ (fun _ _ hp => hp.id_eq) h.payments

theorem campaignIds_eq (h : d.Becomes e) :
    e.campaigns.map Campaign.id = d.campaigns.map Campaign.id := by
  have hids := congrArg (List.map Campaign.id) h.campaigns
  rw [List.map_map, List.map_map] at hids
  exact hids

theorem teamIds_eq (h : d.Becomes e) : e.team.map TeamMember.id = d.team.map TeamMember.id := by
  have hids := congrArg (List.map TeamMember.id) h.team
  rw [List.map_map, List.map_map] at hids
  exact hids

theorem memberIds_sublist (h : d.Becomes e) : e.memberIds.Sublist d.memberIds :=
  sublist_of_sublistForall₂ (fun _ _ hm => hm.id_eq) h.members

/-- Identifiers only ever get fewer. -/
theorem ids_sublist (h : d.Becomes e) : e.ids.Sublist d.ids := by
  unfold ids
  rw [h.reportIds_eq, h.paymentIds_eq, h.campaignIds_eq, h.teamIds_eq]
  exact h.memberIds_sublist.append (List.Sublist.refl _)

/-- Who is named lasts. -/
theorem named_eq (h : d.Becomes e) : e.named = d.named := by
  have hreports : (e.reports.map fun r => [r.reportedMember, r.reporter]) =
      d.reports.map fun r => [r.reportedMember, r.reporter] := by
    refine map_eq_of_forall₂ (fun r r' hr => ?_) h.reports
    have hlasting : [r'.lasting.reportedMember, r'.lasting.reporter] =
        [r.lasting.reportedMember, r.lasting.reporter] := by rw [hr.lasting]
    exact hlasting
  have hpayments : e.payments.map Payment.member = d.payments.map Payment.member := by
    refine map_eq_of_forall₂ (fun p p' hp => ?_) h.payments
    have hlasting : p'.lasting.member = p.lasting.member := congrArg Payment.member hp.lasting
    exact hlasting
  unfold named
  rw [hreports, hpayments]

end Becomes

end Data

/-! ## Deletions and their deeds -/

/-- The identifier of the member that the action deletes. -/
def Action.deleted? : Action → Option Uuid
  | deleteMember id => some id
  | _ => none

namespace Deed

/-- The identifier of the member that was deleted, if the deed is a deletion. -/
def deleted? (deed : Deed) : Option Uuid :=
  if deed.action = ActionKind.deleteMember.name then deed.thing? else none

/-- A deed tells whom its action deleted. -/
theorem deleted?_of (actor : Uuid) (a : Action) : (of actor a).deleted? = a.deleted? := by
  have hname : a.kind.name = ActionKind.deleteMember.name ↔ a.kind = .deleteMember := by
    cases a.kind <;> decide
  unfold deleted?
  cases a with
  | deleteMember id =>
    have hthing : (of actor (.deleteMember id)).thing? = some id := thing?_of actor rfl
    exact (if_pos rfl).trans hthing
  | _ => exact if_neg (mt hname.mp ActionKind.noConfusion)

end Deed

/-- The members that were deleted by the deeds, by their identifiers. -/
def deletions (deeds : List Deed) : List Uuid := deeds.filterMap Deed.deleted?

theorem deletions_concat (deeds : List Deed) (actor : Uuid) (a : Action) :
    deletions (deeds ++ [Deed.of actor a]) = deletions deeds ++ a.deleted?.toList := by
  rw [deletions, List.filterMap_append, ← deletions]
  cases hdeleted : a.deleted? <;> simp [Deed.deleted?_of, hdeleted]

/-- Of things that were done by actions, the deletions are those of the actions. -/
theorem deletions_map {α : Type} {actor : α → Uuid} {action : α → Action} (xs : List α) :
    deletions (xs.map fun x => Deed.of (actor x) (action x)) =
      xs.filterMap fun x => (action x).deleted? := by
  rw [deletions, List.filterMap_map]
  exact List.filterMap_congr fun x _ => Deed.deleted?_of (actor x) (action x)

theorem deletions_changes (changes : List Change) :
    deletions (changes.map Change.deed) = changes.filterMap fun c => c.call.action.deleted? :=
  deletions_map changes

/-- The deletions of the trail are those that were carried out. -/
theorem Console.deletions_trail (c : Console) (orders : List Order) :
    deletions ((c.trail orders).map AuditRecord.deed) =
      (c.carriedOut orders).filterMap fun order => order.action.deleted? := by
  rw [map_deed_trail]
  exact deletions_map _

theorem mem_deletions {deeds : List Deed} {id : Uuid} :
    id ∈ deletions deeds ↔ ∃ deed ∈ deeds, deed.deleted? = some id :=
  List.mem_filterMap

/-! ## One action -/

namespace Listing

variable {α : Type} [Entity α] {l : Listing α} {target : Uuid} {a : α} {d d' : Data}

/-- Where identifiers are distinct, a removal takes away the one. -/
theorem Removed.ids_eq (h : l.Removed target a d d') (hd : ((l.items d).map Entity.id).Nodup) :
    (l.items d').map Entity.id = ((l.items d).map Entity.id).filter (· ∉ [target]) := by
  rw [h.eq_drop hd, drop, l.items_put, List.filter_map]
  congr 2
  funext x
  simp

theorem Removed.id_mem (h : l.Removed target a d d') : target ∈ (l.items d).map Entity.id := by
  obtain ⟨pre, post, hitems, -, rfl, -⟩ := h
  rw [hitems]
  exact List.mem_map_of_mem (List.mem_append_right pre List.mem_cons_self)

end Listing

namespace Action.Effect

variable {actor : Uuid} {now : Instant} {a : Action} {d d' : Data} {result : Affected}

/-- Every action but a deletion leaves the members where they are. -/
theorem memberIds_eq_of_none (h : a.Effect actor now d result d') (ha : a.deleted? = none) :
    d'.memberIds = d.memberIds := by
  by_cases hplace : a.kind.place = .members
  · cases a with
    | banMember id reason => exact Listing.Turned.map_eq h fun _ => rfl
    | unbanMember id => exact Listing.Turned.map_eq h fun _ => rfl
    | verifyMember id => exact Listing.Turned.map_eq h fun _ => rfl
    | editMember id u => exact Listing.Turned.map_eq h.2 fun _ => rfl
    | deleteMember id => cases ha
    | _ => cases hplace
  · exact congrArg (List.map Member.id) (h.beside.members hplace)

/-- **A performed action takes away whom it deletes and nobody else.** -/
theorem memberIds_eq (h : a.Effect actor now d result d') (hd : d.memberIds.Nodup) :
    d'.memberIds = d.memberIds.filter (· ∉ a.deleted?.toList) := by
  cases hdeleted : a.deleted? with
  | none =>
    rw [h.memberIds_eq_of_none hdeleted]
    exact (List.filter_eq_self.mpr fun id _ => by simp).symm
  | some id =>
    cases a with
    | deleteMember id' =>
      obtain rfl := Option.some.inj hdeleted
      obtain ⟨m, hm, -⟩ := h
      exact hm.ids_eq hd
    | _ => cases hdeleted

/-- Only who is there can be deleted. -/
theorem mem_of_deleted (h : a.Effect actor now d result d') :
    ∀ id ∈ a.deleted?.toList, id ∈ d.memberIds := by
  intro id hid
  cases a with
  | deleteMember id' =>
    obtain rfl := List.mem_singleton.mp hid
    obtain ⟨m, hm, -⟩ := h
    exact hm.id_mem
  | _ => cases hid

end Action.Effect

/-! ## Any number of actions -/

namespace Data.LeadsBy

variable {d e : Data} {deeds : List Deed}

/-- Deeds take away whom they delete, and nobody can be deleted twice. -/
theorem memberIds_eq (h : d.LeadsBy deeds e) (hd : d.memberIds.Nodup) :
    e.memberIds = d.memberIds.filter (· ∉ deletions deeds) ∧
      (∀ id ∈ deletions deeds, id ∈ d.memberIds) ∧ (deletions deeds).Nodup := by
  -- Who is deleted next is among those that are left, so not among those that are gone.
  induction h with
  | start =>
    refine ⟨(List.filter_eq_self.mpr fun id _ => ?_).symm, fun id hid => ?_, List.nodup_nil⟩
    · simp [deletions]
    · cases hid
  | @more e e' deeds actor now a result _ heffect ih =>
    obtain ⟨hmembers, hlisted, hnodup⟩ := ih
    have hnext : ∀ id ∈ a.deleted?.toList, id ∈ d.memberIds ∧ id ∉ deletions deeds := by
      intro id hid
      have hmem := heffect.mem_of_deleted id hid
      rw [hmembers, List.mem_filter] at hmem
      exact ⟨hmem.1, of_decide_eq_true hmem.2⟩
    rw [deletions_concat]
    refine ⟨?_, fun id hid => ?_, ?_⟩
    · rw [heffect.memberIds_eq (hmembers ▸ hd.filter _), hmembers, List.filter_filter]
      refine List.filter_congr fun id _ => ?_
      simp only [List.mem_append, not_or, Bool.decide_and, Bool.and_comm]
    · rcases List.mem_append.mp hid with hid | hid
      · exact hlisted id hid
      · exact (hnext id hid).1
    · refine List.nodup_append.mpr ⟨hnodup, ?_, fun id hid id' hid' he => ?_⟩
      · cases a.deleted? with
        | none => exact List.nodup_nil
        | some id => exact List.nodup_singleton id
      · exact (hnext id' hid').2 (he ▸ hid)

/-- **Linked data is thinned by its deletions and by nothing else.** -/
theorem thinned (h : d.LeadsBy deeds e) (hd : d.Linked) : d.Thinned (deletions deeds) e := by
  have hbecomes : d.Becomes e := h.leads.becomes
  have hmemberIds : d.memberIds.Nodup := (List.nodup_append.mp hd.distinct).1
  obtain ⟨hmembers, hlisted, hnodup⟩ := h.memberIds_eq hmemberIds
  exact {
    distinct := hd.distinct.sublist hbecomes.ids_sublist
    members := hmembers
    reports := hbecomes.reportIds_eq
    payments := hbecomes.paymentIds_eq
    campaigns := hbecomes.campaignIds_eq
    team := hbecomes.teamIds_eq
    gone_listed := hlisted
    gone_nodup := hnodup
    named := hbecomes.named_eq
    resolved := by
      intro id hid
      rw [hbecomes.named_eq] at hid
      rw [hmembers, List.mem_filter, decide_eq_true_iff, and_iff_right (hd.resolved id hid)] }

end Data.LeadsBy

namespace Accounted

variable {start : Console} {f : Floor}

/-- A deletion in the trail was made. -/
theorem deletions_trail_subset (h : Accounted start f) :
    deletions (f.trail.map fun s => s.record.deed) ⊆ deletions (f.changes.map Change.deed) := by
  intro id hid
  obtain ⟨deed, hdeed, hdeleted⟩ := mem_deletions.mp hid
  obtain ⟨s, hs, rfl⟩ := List.mem_map.mp hdeed
  obtain ⟨c, hc, hof⟩ := h.exists_change hs
  exact mem_deletions.mpr ⟨c.deed, List.mem_map_of_mem hc, hof.deed_eq ▸ hdeleted⟩

/-- When no task has a step left, a deletion that was made is in the trail. -/
theorem deletions_changes_subset (h : Accounted start f) (hq : f.Quiet) :
    deletions (f.changes.map Change.deed) ⊆ deletions (f.trail.map fun s => s.record.deed) := by
  intro id hid
  obtain ⟨deed, hdeed, hdeleted⟩ := mem_deletions.mp hid
  obtain ⟨c, hc, rfl⟩ := List.mem_map.mp hdeed
  obtain ⟨s, hs, hof⟩ := h.exists_submission hq hc
  exact mem_deletions.mpr
    ⟨s.record.deed, List.mem_map_of_mem hs, hof.deed_eq.symm ▸ hdeleted⟩

end Accounted

namespace Console

/-- **Things keep their identity, and only a deletion takes a member away.**  The console starts
with linked data.  From there, or from any other linked data, whichever orders are obeyed, the data
is thinned by the deletions that were carried out, and these are the deletions of the trail.
However calls interleave, it is thinned by the deletions that were made; one that the trail has a
record of was made, and once no spawned task has a step left, the trail has a record of every
one. -/
theorem only_deletions_thin :
    Sample.data.Linked ∧ ∀ start : Console, start.data.Linked →
      (∀ orders,
        let made := (start.carriedOut orders).filterMap fun order => order.action.deleted?
        let audited := deletions ((start.trail orders).map AuditRecord.deed)
        start.data.Thinned made (start.obeyAll orders).data ∧ audited = made) ∧
      ∀ moves,
        let f := (Floor.opened start).run moves
        let made := f.changes.filterMap fun c => c.call.action.deleted?
        let audited := deletions (f.trail.map fun s => s.record.deed)
        start.data.Thinned made f.console.data ∧ audited ⊆ made ∧ (f.Quiet → made ⊆ audited) := by
  refine ⟨Data.linked_sample, fun start hstart => ⟨fun orders => ?_, fun moves => ?_⟩⟩
  · have haudited := start.deletions_trail orders
    exact ⟨haudited ▸ (leadsBy_obeyAll start orders).thinned hstart, haudited⟩
  · have haccounted := (Accounted.opened start).run moves
    have hmade := deletions_changes ((Floor.opened start).run moves).changes
    exact ⟨hmade ▸ (Floor.leadsBy_run start moves).thinned hstart,
      hmade ▸ haccounted.deletions_trail_subset,
      fun hquiet => hmade ▸ haccounted.deletions_changes_subset hquiet⟩

/-- A member whom two reports name is deleted, which cannot be done again; then one of the reports
is closed. -/
def sampleDeparture : List Order :=
  [sampleOrder 1 (.deleteMember (Sample.memberId 6)),
    sampleOrder 2 (.deleteMember (Sample.memberId 6)),
    sampleOrder 2 (.dismissReport (Sample.reportId 1) none)]

theorem only_deletions_thin_sampleDeparture :
    sample.data.Linked ∧ (sample.carriedOut sampleDeparture).length = 2 ∧
      deletions ((sample.trail sampleDeparture).map AuditRecord.deed) = [Sample.memberId 6] ∧
      sample.data.Thinned
        ((sample.carriedOut sampleDeparture).filterMap fun order => order.action.deleted?)
        (sample.obeyAll sampleDeparture).data :=
  ⟨Data.linked_sample, by decide, by decide,
    ((only_deletions_thin.2 sample Data.linked_sample).1 sampleDeparture).1⟩

end Console

end AdminConsole
