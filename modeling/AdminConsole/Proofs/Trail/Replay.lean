import AdminConsole.Proofs.Console.Perform
import AdminConsole.Proofs.Text.Identifier
import AdminConsole.Proofs.Trail.Standing

/-! # Replaying the trail

A `Deed` is all that a replay may read of a record: the name of the action, its
target, and who the actor was.  `Deed.redo` does again what the deed says, on
any data, and asks nothing: whether the action was allowed is settled by there
being a record of it.

Actions are obeyed one after the other, whoever asks for them, and the trail is
what the outbox receives meanwhile.  Each action that is performed and its deed
redone lead from data of one standing to data of one standing
(`Deed.redo_of`); what is denied or refused leaves neither a change nor a
record.  So the trail and the data at the start determine the standing of the
data at the end.
-/
namespace AdminConsole

/-! ## Redoing a deed -/

/-- What a replay reads of a record. -/
structure Deed where
  action : String
  target : Option String
  actor : Uuid
  deriving DecidableEq

/-- The deed that a record is about. -/
def AuditRecord.deed (r : AuditRecord) : Deed where
  action := r.action
  target := r.target
  actor := r.actor.id

namespace Deed

/-- The thing that the target names. -/
def thing? (deed : Deed) : Option Uuid := deed.target.bind Uuid.parse?

/-- The operator and the role that the target names. -/
def assignment? (deed : Deed) : Option (Uuid × Role) := do
  let (id, tag) ← Text.cut ':' (← deed.target).toList
  return (← Uuid.parse? (String.ofList id), ← Role.ofTag? (String.ofList tag))

/-- What an actor's action of a kind does to the thing with the identifier, as far as standings go.
Edits of members and of the settings are not among it, and roles are assigned elsewhere. -/
def redoAt (actor id : Uuid) : ActionKind → Data → Data
  | .banMember => Listing.members.redo id fun m => { m with status := .banned }
  | .unbanMember => Listing.members.redo id fun m => { m with status := .active, banReason := none }
  | .verifyMember => Listing.members.redo id fun m => { m with verified := true }
  | .deleteMember => Listing.members.drop id
  | .resolveReport =>
    Listing.reports.redo id fun r => { r with status := .resolved, handledBy := some actor }
  | .dismissReport =>
    Listing.reports.redo id fun r => { r with status := .dismissed, handledBy := some actor }
  | .removeContent =>
    Listing.reports.redo id fun r =>
      { r with contentRemoved := true, handledBy := some (r.handledBy.getD actor) }
  | .refundPayment => Listing.payments.redo id fun p => { p with status := .refunded }
  | .pauseCampaign => Listing.campaigns.redo id fun c => { c with status := .paused }
  | .resumeCampaign => Listing.campaigns.redo id fun c => { c with status := .active }
  | .editMember | .assignRole | .updateSettings => fun d => d

/-- Does again what the deed says.  A deed that cannot be made out does nothing. -/
def redo (deed : Deed) (d : Data) : Data :=
  match ActionKind.ofName? deed.action with
  | none => d
  | some .assignRole =>
    match deed.assignment? with
    | none => d
    | some (id, role) => Listing.team.redo id (fun t => { t with role := role }) d
  | some kind =>
    match deed.thing? with
    | none => d
    | some id => redoAt deed.actor id kind d

end Deed

/-- The data after all deeds are done again, one after the other. -/
def Data.replay (d : Data) (deeds : List Deed) : Data := deeds.foldl (fun d deed => deed.redo d) d

/-! ## Making out a target -/

namespace Deed

/-- The deed of an action. -/
def of (actor : Uuid) (a : Action) : Deed where
  action := a.kind.name
  target := some a.target
  actor := actor

theorem thing?_of (actor : Uuid) {id : Uuid} {a : Action} (htarget : a.target = id.text) :
    (of actor a).thing? = some id := by
  rw [thing?, of, htarget, Option.bind_some, id.parse?_text]

theorem redo_thing (actor id : Uuid) (a : Action) (d : Data) (htarget : a.target = id.text)
    (hkind : a.kind ≠ .assignRole) :
    (of actor a).redo d = redoAt actor id a.kind d := by
  unfold redo
  rw [thing?_of actor htarget, of, ActionKind.ofName?_name]
  cases hk : a.kind <;> first | exact absurd hk hkind | rfl

/-- What stands in a target before the first colon is the operator, and what stands after it is the
role. -/
theorem assignment?_assignRole (actor id : Uuid) (role : Role) :
    (of actor (.assignRole id role)).assignment? = some (id, role) := by
  have hcut : Text.cut ':' (id.text ++ ":" ++ role.tag).toList =
      some (id.text.toList, role.tag.toList) := by
    rw [String.toList_append, String.toList_append, List.append_assoc]
    exact Text.cut_append id.colon_not_mem_text role.tag.toList
  simp only [assignment?, of, Action.target, Option.bind_eq_bind, Option.bind_some, hcut,
    String.ofList_toList, Uuid.parse?_text, Role.ofTag?_tag]
  rfl

theorem redo_assignRole (actor id : Uuid) (role : Role) (d : Data) :
    (of actor (.assignRole id role)).redo d =
      Listing.team.redo id (fun t => { t with role := role }) d := by
  have hname : ActionKind.ofName? (of actor (.assignRole id role)).action = some .assignRole :=
    ActionKind.ofName?_name .assignRole
  unfold redo
  rw [hname, assignment?_assignRole]

/-- Whatever the keys of an update spell, it is not taken for anything else. -/
theorem redo_updateSettings (actor : Uuid) (u : SettingsUpdate) (d : Data) :
    (of actor (.updateSettings u)).redo d = d := by
  have hname : ActionKind.ofName? (of actor (.updateSettings u)).action = some .updateSettings :=
    ActionKind.ofName?_name .updateSettings
  unfold redo
  rw [hname]
  dsimp only
  split <;> rfl

end Deed

/-! ## One action -/

namespace Listing

variable {α β : Type} [Entity α] {l : Listing α} {target : Uuid} {d d' e : Data}

/-- A thing that an action changed is changed alike by what looks like the action. -/
theorem Turned.redone {before : α → Prop} {after f : α → α} {result : Affected} (k : l.Column β)
    (h : l.Turned target before after d result d') (hd : d.DistinctIds)
    (he : e.standing = d.standing)
    (hf : ∀ a b, k.view a = k.view b → k.view (f a) = k.view (after b))
    (hid : ∀ a, Entity.id (after a) = Entity.id a) :
    (l.redo target f e).standing = d'.standing ∧ d'.DistinctIds := by
  rw [h.eq_redo (k.distinct d hd)]
  exact ⟨k.redo_congr he hf, k.distinct_redo hd hid⟩

theorem Removed.redone {a : α} (k : l.Column β) (h : l.Removed target a d d')
    (hd : d.DistinctIds) (he : e.standing = d.standing) :
    (l.drop target e).standing = d'.standing ∧ d'.DistinctIds := by
  rw [h.eq_drop (k.distinct d hd)]
  exact ⟨k.drop_congr he, k.distinct_drop hd⟩

end Listing

namespace Deed

/-- **An action and its deed redone come to the same standing.**  Both start from data of one
standing, and identifiers stay distinct. -/
theorem redo_of {actor : Uuid} {now : Instant} {a : Action} {d d' e : Data} {result : Affected}
    (h : a.Effect actor now d result d') (hd : d.DistinctIds) (he : e.standing = d.standing) :
    ((of actor a).redo e).standing = d'.standing ∧ d'.DistinctIds := by
  cases a with
  | banMember id reason =>
    rw [redo_thing actor id (.banMember id reason) e rfl (by simp [Action.kind])]
    refine h.redone Listing.members.column hd he (fun m m' hm => ?_) fun _ => rfl
    simp_all [Listing.members.column, Member.standing, Member.afterBan]
  | unbanMember id =>
    rw [redo_thing actor id (.unbanMember id) e rfl (by simp [Action.kind])]
    refine h.redone Listing.members.column hd he (fun m m' hm => ?_) fun _ => rfl
    simp_all [Listing.members.column, Member.standing, Member.afterUnban]
  | verifyMember id =>
    rw [redo_thing actor id (.verifyMember id) e rfl (by simp [Action.kind])]
    refine h.redone Listing.members.column hd he (fun m m' hm => ?_) fun _ => rfl
    simp_all [Listing.members.column, Member.standing, Member.afterVerify]
  | editMember id u =>
    rw [redo_thing actor id (.editMember id u) e rfl (by simp [Action.kind])]
    obtain rfl := h.2.eq_redo hd.members
    have hshow : (Listing.members.redo id u.applyTo d).standing = d.standing :=
      Listing.members.column.standing_redo fun _ => rfl
    exact ⟨he.trans hshow.symm, Listing.members.column.distinct_redo hd fun _ => rfl⟩
  | deleteMember id =>
    rw [redo_thing actor id (.deleteMember id) e rfl (by simp [Action.kind])]
    obtain ⟨m, hm, -⟩ := h
    exact hm.redone Listing.members.column hd he
  | resolveReport id note =>
    rw [redo_thing actor id (.resolveReport id note) e rfl (by simp [Action.kind])]
    refine h.redone Listing.reports.column hd he (fun a b hab => ?_) fun _ => rfl
    simp_all [Listing.reports.column, Report.standing, Report.afterClose]
  | dismissReport id note =>
    rw [redo_thing actor id (.dismissReport id note) e rfl (by simp [Action.kind])]
    refine h.redone Listing.reports.column hd he (fun a b hab => ?_) fun _ => rfl
    simp_all [Listing.reports.column, Report.standing, Report.afterClose]
  | removeContent id =>
    rw [redo_thing actor id (.removeContent id) e rfl (by simp [Action.kind])]
    refine h.redone Listing.reports.column hd he (fun a b hab => ?_) fun _ => rfl
    simp_all [Listing.reports.column, Report.standing, Report.afterTakeDown]
  | refundPayment id reason =>
    rw [redo_thing actor id (.refundPayment id reason) e rfl (by simp [Action.kind])]
    refine h.redone Listing.payments.column hd he (fun a b hab => ?_) fun _ => rfl
    simp_all [Listing.payments.column, Payment.standing, Payment.afterRefund]
  | pauseCampaign id =>
    rw [redo_thing actor id (.pauseCampaign id) e rfl (by simp [Action.kind])]
    refine h.redone Listing.campaigns.column hd he (fun a b hab => ?_) fun _ => rfl
    simp_all [Listing.campaigns.column, Campaign.standing, Campaign.afterTurn]
  | resumeCampaign id =>
    rw [redo_thing actor id (.resumeCampaign id) e rfl (by simp [Action.kind])]
    refine h.redone Listing.campaigns.column hd he (fun a b hab => ?_) fun _ => rfl
    simp_all [Listing.campaigns.column, Campaign.standing, Campaign.afterTurn]
  | assignRole id role =>
    rw [redo_assignRole]
    refine h.redone Listing.team.column hd he (fun a b hab => ?_) fun _ => rfl
    simp_all [Listing.team.column, TeamMember.standing, TeamMember.afterAssign]
  | updateSettings u =>
    rw [redo_updateSettings]
    obtain ⟨-, -, -, rfl⟩ := h
    exact ⟨he, { hd with }⟩

end Deed

/-! ## Any number of actions -/

/-- An action as it is asked for. -/
structure Order where
  actor : Actor
  origin : Origin
  occasion : Occasion
  action : Action

/-- The record that the outbox received on the way from one state to another, read off the two: a
submission takes the next number, and its record is then the newest of the journal. -/
def Outbox.submitted? (o o' : Outbox) : Option AuditRecord :=
  if o.nextTask < o'.nextTask then o'.journal.records.getLast? else none

theorem Outbox.Received.submitted?_eq {o o' : Outbox} {r : AuditRecord} (h : o.Received r o') :
    o.submitted? o' = some r := by
  rw [submitted?, if_pos (h.nextTask ▸ Nat.lt_succ_self _), Journal.records, h.journal,
    List.map_append]
  exact List.getLast?_concat

namespace Console

/-- The console after one action was asked for. -/
def obey (c : Console) (order : Order) : Console :=
  (perform order.actor order.origin order.occasion order.action c).2

/-- The console after all actions were asked for, one after the other. -/
def obeyAll (c : Console) (orders : List Order) : Console := orders.foldl obey c

/-- The records that are submitted meanwhile, in order. -/
def trail (c : Console) : List Order → List AuditRecord
  | [] => []
  | order :: rest =>
    (c.outbox.submitted? (c.obey order).outbox).toList ++ (c.obey order).trail rest

theorem obeyAll_cons (c : Console) (order : Order) (rest : List Order) :
    c.obeyAll (order :: rest) = (c.obey order).obeyAll rest := rfl

/-- One action is obeyed without a trace, or it changes the data and leaves the record of its
deed. -/
theorem obey_cases (c : Console) (order : Order) :
    (c.obey order = c ∧ c.outbox.submitted? (c.obey order).outbox = none) ∨
    ∃ result record, order.action.Effect order.actor.id order.occasion.now c.data result
        (c.obey order).data ∧
      c.outbox.Received record (c.obey order).outbox ∧
      c.outbox.submitted? (c.obey order).outbox = some record ∧
      record.deed = Deed.of order.actor.id order.action := by
  have hsame : c.outbox.submitted? c.outbox = none := if_neg (Nat.lt_irrefl _)
  rcases perform_cases order.actor order.origin order.occasion order.action c with
    ⟨-, h⟩ | ⟨-, r, -, h⟩ | ⟨-, done, data, hrun, h⟩
  · have hc : c.obey order = c := congrArg Prod.snd h
    exact Or.inl ⟨hc, by rw [hc, hsame]⟩
  · have hc : c.obey order = c := congrArg Prod.snd h
    exact Or.inl ⟨hc, by rw [hc, hsame]⟩
  · have hc : c.obey order = _ := congrArg Prod.snd h
    obtain ⟨htarget, heffect⟩ := Action.run_ok hrun
    have hreceived := Outbox.received_submit c.outbox
      (recordOf order.actor order.origin order.occasion order.action.kind done.target)
    refine Or.inr ⟨done.result, _, by rw [hc]; exact heffect, by rw [hc]; exact hreceived, ?_, ?_⟩
    · rw [hc]
      exact hreceived.submitted?_eq
    · rw [AuditRecord.deed, Deed.of, recordOf, htarget]

/-- Nothing is submitted that the trail leaves out. -/
theorem nextTask_obeyAll (c : Console) (orders : List Order) :
    (c.obeyAll orders).outbox.nextTask = c.outbox.nextTask + (c.trail orders).length := by
  induction orders generalizing c with
  | nil => rfl
  | cons order rest ih =>
    rw [obeyAll_cons, ih, trail, List.length_append]
    rcases obey_cases c order with ⟨hc, hnone⟩ | ⟨result, r, -, hreceived, hsome, -⟩
    · rw [hnone, hc, Option.toList_none, List.length_nil, Nat.zero_add]
    · rw [hsome, hreceived.nextTask]
      simp only [Option.toList_some, List.length_singleton]
      omega

/-- What the journal holds is the end of what it held and of the trail. -/
theorem records_obeyAll (c : Console) (orders : List Order) :
    (c.obeyAll orders).outbox.journal.records <:+ c.outbox.journal.records ++ c.trail orders := by
  induction orders generalizing c with
  | nil =>
    rw [trail, List.append_nil]
    exact List.suffix_refl _
  | cons order rest ih =>
    rw [obeyAll_cons, trail, ← List.append_assoc]
    rcases obey_cases c order with ⟨hc, hnone⟩ | ⟨result, r, -, hreceived, hsome, -⟩
    · rw [hnone, hc, Option.toList_none, List.append_nil]
      exact ih c
    · obtain ⟨older, holder⟩ := hreceived.records_suffix
      refine (ih _).trans ⟨older, ?_⟩
      rw [hsome, ← List.append_assoc, holder]
      rfl

/-! ## The replay -/

/-- What comes of orders and what comes of their trail have one standing, if they start from data of
one standing. -/
theorem replay_follows {c : Console} {e : Data} (hd : c.data.DistinctIds)
    (he : e.standing = c.data.standing) (orders : List Order) :
    (e.replay ((c.trail orders).map AuditRecord.deed)).standing =
        (c.obeyAll orders).data.standing ∧
      (c.obeyAll orders).data.DistinctIds := by
  -- What is replayed need not be the console's data, which has the reasons and the times too; it
  -- only has to keep to its standing.
  induction orders generalizing c e with
  | nil => exact ⟨he, hd⟩
  | cons order rest ih =>
    rw [obeyAll_cons, trail, List.map_append, Data.replay, List.foldl_append]
    rcases obey_cases c order with ⟨hc, hnone⟩ | ⟨result, r, heffect, -, hsome, hdeed⟩
    · rw [hnone, hc]
      exact ih hd he
    · obtain ⟨hstanding, hdistinct⟩ := Deed.redo_of heffect hd he
      rw [hsome]
      refine ih hdistinct ?_
      show (r.deed.redo e).standing = _
      rw [hdeed, hstanding]

/-- **The trail determines the standing of the data.**  Whoever asks for whatever, redoing the deeds
of the trail on the data of the start comes to the standing of the data at the end. -/
theorem standing_replay_trail (c : Console) (orders : List Order) (hd : c.data.DistinctIds) :
    (c.data.replay ((c.trail orders).map AuditRecord.deed)).standing =
      (c.obeyAll orders).data.standing :=
  (replay_follows hd rfl orders).1

/-- The console with the sample data and nothing to deliver. -/
def sample : Console where
  data := Sample.data
  outbox := .idle { maxAttempts := 1, delays := [] } .log

/-- A member is banned; to ban it again is refused, and a manager of ads may not lift the ban; then
a moderator becomes an administrator. -/
def sampleOrders : List Order :=
  let order (role : Role) (a : Action) : Order :=
    { actor := { id := Sample.operatorId 1, role := role }
      origin := { ip := "127.0.0.1", device := "Firefox" }
      occasion := { now := Sample.daysAgo 0, recordId := .ofNat 1 }
      action := a }
  [order .owner (.banMember (Sample.memberId 1) none),
    order .owner (.banMember (Sample.memberId 1) none),
    order .adManager (.unbanMember (Sample.memberId 1)),
    order .owner (.assignRole (Sample.operatorId 3) .admin)]

theorem standing_replay_sampleOrders :
    sample.data.DistinctIds ∧ (sample.trail sampleOrders).length = 2 ∧
      (sample.data.replay ((sample.trail sampleOrders).map AuditRecord.deed)).standing =
        (sample.obeyAll sampleOrders).data.standing :=
  ⟨Data.distinctIds_sample, by decide,
    standing_replay_trail sample sampleOrders Data.distinctIds_sample⟩

end Console

end AdminConsole
