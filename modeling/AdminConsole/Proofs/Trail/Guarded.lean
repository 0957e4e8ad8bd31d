import AdminConsole.Proofs.Action.Fields
import AdminConsole.Proofs.Trail.Becoming

/-! # What a role cannot write

A permission guards the fields that the kinds of actions it is for may write
(`Permission.fields`).  The gate lets an actor perform those kinds only that the
role has the permissions for, and an action that is performed is confined to
the fields of its kind.  So as long as all who ask are of one role, fields that
none of its permissions guards are what they were, however long that goes on
and however the calls interleave: `Data.SameExcept` compares the data thing by
thing, and is kept by every step.
-/
namespace AdminConsole

/-! ## Guarded fields -/

/-- The fields that the permission guards: those that it takes to write them. -/
def Permission.fields (p : Permission) : List Data.Field :=
  (ActionKind.all.filter fun kind => kind.permission = p).flatMap ActionKind.fields

/-- The fields that the permissions of the role guard. -/
def Role.writable (role : Role) : List Data.Field := role.grants.flatMap Permission.fields

example : Role.writable .support =
    [.member .displayName, .member .email, .member .city, .member .verified, .payment .status,
      .payment .refundedAt, .payment .refundReason] := by
  decide

namespace ActionKind

theorem mem_all (kind : ActionKind) : kind ∈ all := by cases kind <;> decide

theorem membership_mem_fields {kind : ActionKind} :
    .membership ∈ kind.fields ↔ kind = .deleteMember := by
  cases kind <;> decide

end ActionKind

/-- A role may write all the fields of an action that it may perform. -/
theorem Role.fields_subset_writable {role : Role} {kind : ActionKind}
    (h : kind.permission ∈ role.grants) : kind.fields ⊆ role.writable := by
  intro f hf
  have hkind : kind ∈ ActionKind.all.filter fun k => k.permission = kind.permission :=
    List.mem_filter.mpr ⟨kind.mem_all, decide_eq_true rfl⟩
  exact List.mem_flatMap.mpr ⟨kind.permission, h, List.mem_flatMap.mpr ⟨kind, hkind, hf⟩⟩

/-! ## The data but for some fields -/

/-- `e` lists what `d` lists, in its order, and each thing is the same but for what was written.
Only if that was written who is a member at all, members may be gone. -/
structure Data.SameExcept (written : List Data.Field) (d e : Data) : Prop where
  remaining : List.SublistForall₂ (fun m' m : Member => SameBut written m m') e.members d.members
  members : .membership ∉ written → List.Forall₂ (SameBut written) d.members e.members
  reports : List.Forall₂ (SameBut written) d.reports e.reports
  payments : List.Forall₂ (SameBut written) d.payments e.payments
  campaigns : List.Forall₂ (SameBut written) d.campaigns e.campaigns
  team : List.Forall₂ (SameBut written) d.team e.team
  settings : SameBut written d.settings e.settings
  engagement : e.engagement = d.engagement
  revenue : e.revenue = d.revenue

section Lists

variable {α : Type} [Fielded α] {written more : List Data.Field} {xs ys zs : List α}

theorem forall₂_sameBut_refl (xs : List α) : List.Forall₂ (SameBut written) xs xs :=
  List.forall₂_same.mpr fun x _ => SameBut.refl x

theorem forall₂_sameBut_trans (h : List.Forall₂ (SameBut written) xs ys)
    (h' : List.Forall₂ (SameBut written) ys zs) : List.Forall₂ (SameBut written) xs zs :=
  forall₂_trans (fun _ _ _ => SameBut.trans) h h'

theorem forall₂_sameBut_mono (h : List.Forall₂ (SameBut written) xs ys) (hsub : written ⊆ more) :
    List.Forall₂ (SameBut more) xs ys :=
  h.imp fun _ _ hxy => hxy.mono hsub

/-- Lists of things of which nothing was written are the same. -/
theorem forall₂_sameBut_nil (h : List.Forall₂ (SameBut []) xs ys) : ys = xs := by
  have hmap := map_eq_of_forall₂ (v := id)
    (fun _ _ hxy => SameBut.eq hxy fun _ => List.not_mem_nil) h
  rwa [List.map_id, List.map_id] at hmap

instance : Std.Refl fun b a : α => SameBut written a b := ⟨SameBut.refl⟩

instance : IsTrans α fun b a => SameBut written a b := ⟨fun _ _ _ h h' => h'.trans h⟩

end Lists

namespace Data.SameExcept

variable {written more : List Data.Field} {c d e : Data}

theorem refl (d : Data) : d.SameExcept written d where
  remaining := Std.Refl.refl d.members
  members _ := forall₂_sameBut_refl d.members
  reports := forall₂_sameBut_refl d.reports
  payments := forall₂_sameBut_refl d.payments
  campaigns := forall₂_sameBut_refl d.campaigns
  team := forall₂_sameBut_refl d.team
  settings := SameBut.refl d.settings
  engagement := rfl
  revenue := rfl

theorem trans (h : c.SameExcept written d) (h' : d.SameExcept written e) :
    c.SameExcept written e where
  remaining := IsTrans.trans _ _ _ h'.remaining h.remaining
  members hroll := forall₂_sameBut_trans (h.members hroll) (h'.members hroll)
  reports := forall₂_sameBut_trans h.reports h'.reports
  payments := forall₂_sameBut_trans h.payments h'.payments
  campaigns := forall₂_sameBut_trans h.campaigns h'.campaigns
  team := forall₂_sameBut_trans h.team h'.team
  settings := h.settings.trans h'.settings
  engagement := h'.engagement.trans h.engagement
  revenue := h'.revenue.trans h.revenue

theorem mono (h : d.SameExcept written e) (hsub : written ⊆ more) : d.SameExcept more e where
  remaining := by
    obtain ⟨kept, hkept, hkeeps⟩ := List.sublistForall₂_iff.mp h.remaining
    exact List.sublistForall₂_iff.mpr ⟨kept, hkept.imp fun _ _ hm => hm.mono hsub, hkeeps⟩
  members hroll := forall₂_sameBut_mono (h.members fun hmem => hroll (hsub hmem)) hsub
  reports := forall₂_sameBut_mono h.reports hsub
  payments := forall₂_sameBut_mono h.payments hsub
  campaigns := forall₂_sameBut_mono h.campaigns hsub
  team := forall₂_sameBut_mono h.team hsub
  settings := h.settings.mono hsub
  engagement := h.engagement
  revenue := h.revenue

/-- Data of which nothing was written is the same: the comparison leaves nothing out. -/
theorem eq (h : d.SameExcept [] e) : e = d := by
  obtain ⟨-, hmembers, hreports, hpayments, hcampaigns, hteam, hsettings, hengagement, hrevenue⟩ :=
    h
  cases e
  cases d
  simp only [Data.mk.injEq]
  exact ⟨forall₂_sameBut_nil (hmembers List.not_mem_nil), forall₂_sameBut_nil hreports,
    forall₂_sameBut_nil hpayments, forall₂_sameBut_nil hcampaigns, forall₂_sameBut_nil hteam,
    hsettings.eq fun _ => List.not_mem_nil, hengagement, hrevenue⟩

end Data.SameExcept

/-! ## One step -/

namespace Action.Effect

variable {actor : Uuid} {now : Instant} {a : Action} {d d' : Data} {result : Affected}

/-- Members who are not removed stay in their places. -/
theorem members_sameBut (h : a.Effect actor now d result d') (hroll : .membership ∉ a.writes d) :
    List.Forall₂ (SameBut (a.writes d)) d.members d'.members := by
  by_cases hplace : a.kind.place = .members
  · have hconfined := h.confined
    cases a with
    | banMember | unbanMember | verifyMember | editMember =>
      exact Listing.Rewritten.forall₂ hconfined
    | deleteMember id => exact absurd List.mem_cons_self hroll
    | _ => cases hplace
  · rw [h.beside.members hplace]
    exact forall₂_sameBut_refl d.members

theorem members_remaining (h : a.Effect actor now d result d') :
    List.SublistForall₂ (fun m' m : Member => SameBut (a.writes d) m m') d'.members d.members := by
  by_cases hkind : a.kind = .deleteMember
  · cases a with
    | deleteMember id =>
      obtain ⟨m, hm, -⟩ := h
      exact hm.sublist.sublistForall₂
    | _ => cases hkind
  · -- Only a removal has the roll among its fields.
    have hroll : .membership ∉ a.writes d := fun hmem =>
      hkind (ActionKind.membership_mem_fields.mp (writes_subset d a hmem))
    exact List.sublistForall₂_iff.mpr
      ⟨d.members, (h.members_sameBut hroll).flip, List.Sublist.refl _⟩

theorem reports_sameBut (h : a.Effect actor now d result d') :
    List.Forall₂ (SameBut (a.writes d)) d.reports d'.reports := by
  by_cases hplace : a.kind.place = .reports
  · have hconfined := h.confined
    cases a with
    | resolveReport | dismissReport | removeContent =>
      exact Listing.Rewritten.forall₂ hconfined
    | _ => cases hplace
  · rw [h.beside.reports hplace]
    exact forall₂_sameBut_refl d.reports

theorem payments_sameBut (h : a.Effect actor now d result d') :
    List.Forall₂ (SameBut (a.writes d)) d.payments d'.payments := by
  by_cases hplace : a.kind.place = .payments
  · have hconfined := h.confined
    cases a with
    | refundPayment => exact Listing.Rewritten.forall₂ hconfined
    | _ => cases hplace
  · rw [h.beside.payments hplace]
    exact forall₂_sameBut_refl d.payments

theorem campaigns_sameBut (h : a.Effect actor now d result d') :
    List.Forall₂ (SameBut (a.writes d)) d.campaigns d'.campaigns := by
  by_cases hplace : a.kind.place = .campaigns
  · have hconfined := h.confined
    cases a with
    | pauseCampaign | resumeCampaign => exact Listing.Rewritten.forall₂ hconfined
    | _ => cases hplace
  · rw [h.beside.campaigns hplace]
    exact forall₂_sameBut_refl d.campaigns

theorem team_sameBut (h : a.Effect actor now d result d') :
    List.Forall₂ (SameBut (a.writes d)) d.team d'.team := by
  by_cases hplace : a.kind.place = .team
  · have hconfined := h.confined
    cases a with
    | assignRole => exact Listing.Rewritten.forall₂ hconfined
    | _ => cases hplace
  · rw [h.beside.team hplace]
    exact forall₂_sameBut_refl d.team

theorem settings_sameBut (h : a.Effect actor now d result d') :
    SameBut (a.writes d) d.settings d'.settings := by
  by_cases hplace : a.kind.place = .settings
  · have hconfined := h.confined
    cases a with
    | updateSettings u => exact hconfined.2.1
    | _ => cases hplace
  · rw [h.beside.settings hplace]
    exact SameBut.refl d.settings

/-- **A performed action leaves the data as it was but for the fields that it writes.** -/
theorem sameExcept (h : a.Effect actor now d result d') : d.SameExcept (a.writes d) d' where
  remaining := h.members_remaining
  members := h.members_sameBut
  reports := h.reports_sameBut
  payments := h.payments_sameBut
  campaigns := h.campaigns_sameBut
  team := h.team_sameBut
  settings := h.settings_sameBut
  engagement := h.beside.engagement
  revenue := h.beside.revenue

/-- What is performed behind the gate of a role writes nothing else than the role may. -/
theorem sameExcept_writable (h : a.Effect actor now d result d') {role : Role}
    (hp : a.kind.permission ∈ role.grants) : d.SameExcept role.writable d' :=
  h.sameExcept.mono fun _ hf => Role.fields_subset_writable hp (a.writes_subset d hf)

end Action.Effect

/-! ## Runs of one role -/

/-- Changes that calls of one role made. -/
theorem Made.sameExcept {d e : Data} {changes : List Change} (h : Made d changes e) {role : Role}
    (hrole : ∀ c ∈ changes, c.call.Entitled ∧ c.call.actor.role = role) :
    d.SameExcept role.writable e := by
  induction h with
  | none => exact Data.SameExcept.refl d
  | @more e e' changes c _ hrun ih =>
    obtain ⟨hp, rfl⟩ := hrole c (List.mem_append_right _ List.mem_cons_self)
    -- Whoever made a change came through the gate, so the role has the permission for its kind.
    have hbefore := ih fun c' hc' => hrole c' (List.mem_append_left _ hc')
    exact hbefore.trans ((Action.run_ok hrun).2.sameExcept_writable hp)

/-- A change was made by one of the calls that were asked for. -/
theorem Accounted.mem_calls {start : Console} {moves : List Move} {c : Change}
    (hc : c ∈ ((Floor.opened start).run moves).changes) : c.call ∈ Move.calls moves := by
  obtain ⟨j, hj, hcall, -⟩ := (((Accounted.opened start).run moves).mem_changes c).mp hc
  have hcalls : ((Floor.opened start).run moves).jobs.map Job.call = Move.calls moves :=
    Floor.map_call_run (Floor.opened start) moves
  rw [← hcalls, ← hcall]
  exact List.mem_map_of_mem (List.mem_of_getElem? hj)

namespace Console

variable {c : Console} {order : Order}

/-- An order that is carried out has the effect of its action behind the gate, and submits the one
record that the receipt names. -/
theorem obey_of_receipt? {receipt : ActionReceipt} (h : c.receipt? order = some receipt) :
    order.action.Effect order.actor.id order.occasion.now c.data receipt.result
        (c.obey order).data ∧
      ∃ record, c.outbox.Received record (c.obey order).outbox ∧ record.id = receipt.recordId := by
  rcases perform_cases order.actor order.origin order.occasion order.action c with
    ⟨-, hperform⟩ | ⟨-, r, -, hperform⟩ | ⟨-, done, data, hrun, hperform⟩
  · rw [receipt?, hperform] at h
    cases h
  · rw [receipt?, hperform] at h
    cases h
  · rw [receipt?, hperform] at h
    obtain rfl := Option.some.inj h
    rw [obey, hperform]
    exact ⟨(Action.run_ok hrun).2, _, Outbox.received_submit _ _, rfl⟩

theorem sameExcept_obey (c : Console) (order : Order) :
    c.data.SameExcept order.actor.role.writable (c.obey order).data := by
  rcases perform_cases order.actor order.origin order.occasion order.action c with
    ⟨-, h⟩ | ⟨-, r, -, h⟩ | ⟨hp, done, data, hrun, h⟩
  · rw [obey, h]
    exact Data.SameExcept.refl c.data
  · rw [obey, h]
    exact Data.SameExcept.refl c.data
  · rw [obey, h]
    exact (Action.run_ok hrun).2.sameExcept_writable hp

theorem sameExcept_obeyAll (c : Console) {role : Role} {orders : List Order}
    (hrole : ∀ order ∈ orders, order.actor.role = role) :
    c.data.SameExcept role.writable (c.obeyAll orders).data := by
  induction orders generalizing c with
  | nil => exact Data.SameExcept.refl c.data
  | cons order rest ih =>
    rw [obeyAll_cons]
    have hfirst := sameExcept_obey c order
    rw [hrole order List.mem_cons_self] at hfirst
    exact hfirst.trans (ih (c.obey order) fun o ho => hrole o (List.mem_cons_of_mem _ ho))

/-- **Each action changes only what it is about.**  An order that is carried out changes nothing of
the data but, of the first thing with the identifier or of the settings, the fields that its action
writes; its receipt has that thing as it is stored then, and the identifier of the one record that
was submitted.  So while all orders are of one role, or all calls, fields that no permission of the
role guards stay what they are. -/
theorem changes_are_confined :
    (∀ (c : Console) (order : Order) (receipt : ActionReceipt), c.receipt? order = some receipt →
      order.action.Confined c.data receipt.result (c.obey order).data ∧
      ∃ record, c.outbox.Received record (c.obey order).outbox ∧ record.id = receipt.recordId) ∧
    (∀ (start : Console) (role : Role) (orders : List Order),
      (∀ order ∈ orders, order.actor.role = role) →
      start.data.SameExcept role.writable (start.obeyAll orders).data) ∧
    ∀ (start : Console) (role : Role) (moves : List Move),
      (∀ call ∈ Move.calls moves, call.actor.role = role) →
      start.data.SameExcept role.writable ((Floor.opened start).run moves).console.data := by
  refine ⟨fun c order receipt h => ?_,
    fun start role orders hrole => sameExcept_obeyAll start hrole,
    fun start role moves hrole => ?_⟩
  · obtain ⟨heffect, hrecord⟩ := obey_of_receipt? h
    exact ⟨heffect.confined, hrecord⟩
  · have h : Accounted start ((Floor.opened start).run moves) := (Accounted.opened start).run moves
    exact h.made.sameExcept fun c hc => ⟨h.entitled hc, hrole c.call (Accounted.mem_calls hc)⟩

/-- An order of a moderator. -/
def moderatorOrder (a : Action) : Order where
  actor := { id := Sample.operatorId 3, role := .moderator }
  origin := { ip := "127.0.0.1", device := "Firefox" }
  occasion := { now := Sample.daysAgo 0, recordId := .ofNat 1 }
  action := a

/-- Content is taken down and a member banned; a refund is none of a moderator's business. -/
def moderatorOrders : List Order :=
  [moderatorOrder (.removeContent (Sample.reportId 1)),
    moderatorOrder (.refundPayment (Sample.paymentId 1) none),
    moderatorOrder (.banMember (Sample.memberId 6) (some "abuse"))]

/-- The same as calls, and the ban is carried out before the removal. -/
def moderatorMoves : List Move :=
  let call (order : Order) : Call :=
    { actor := order.actor, origin := order.origin, action := order.action }
  moderatorOrders.map (fun order => .ask (call order)) ++
    [.turn 0 .check, .turn 0 .spawn, .turn 2 .check, .turn 2 .spawn, .turn 1 .check,
      .turn 2 (.mutate (Sample.daysAgo 0)), .turn 0 (.mutate (Sample.daysAgo 0))]

theorem changes_are_confined_moderatorOrders :
    (∃ receipt, sample.receipt? (moderatorOrder (.removeContent (Sample.reportId 1))) =
        some receipt ∧
      Action.Confined (.removeContent (Sample.reportId 1)) sample.data receipt.result
        (sample.obey (moderatorOrder (.removeContent (Sample.reportId 1)))).data) ∧
    (sample.trail moderatorOrders).length = 2 ∧
    sample.data.SameExcept Role.moderator.writable (sample.obeyAll moderatorOrders).data ∧
    sample.data.SameExcept Role.moderator.writable
      ((Floor.opened sample).run moderatorMoves).console.data := by
  have hsome : (sample.receipt? (moderatorOrder (.removeContent (Sample.reportId 1)))).isSome := by
    decide
  obtain ⟨receipt, hreceipt⟩ := Option.isSome_iff_exists.mp hsome
  have hrole : ∀ order ∈ moderatorOrders, order.actor.role = .moderator := by decide
  exact ⟨⟨receipt, hreceipt, (changes_are_confined.1 sample _ receipt hreceipt).1⟩, by decide,
    changes_are_confined.2.1 sample .moderator moderatorOrders hrole,
    changes_are_confined.2.2 sample .moderator moderatorMoves (by decide)⟩

end Console

end AdminConsole
