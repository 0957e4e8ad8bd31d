import AdminConsole.Proofs.List.Walk
import AdminConsole.Proofs.Trail.Course
import AdminConsole.Proofs.Trail.Custom

/-! # Lifecycles

The actions on one thing, in the order in which they changed the data, are a
walk by the custom of the thing (`Made.walk`), and the walk begins at what the
thing was when the run began.  So a member is banned and unbanned in turn, a
payment is refunded once, and so on, whatever happens to other things in
between and however the calls interleave (`Floor.lifecycles`).
-/
namespace AdminConsole

/-- The actions on one thing that changed the data, in order. -/
def actionsOn (s : Section) (id : Uuid) (changes : List Change) : List Action :=
  (changes.map fun c => c.call.action).filter (Action.isAbout s id)

/-- Identifiers stay distinct. -/
theorem Action.Effect.distinctIds {actor : Uuid} {now : Instant} {a : Action} {d d' : Data}
    {result : Affected} (h : a.Effect actor now d result d') (hd : d.DistinctIds) :
    d'.DistinctIds :=
  (Deed.redo_of h hd rfl).2

/-- **The actions on a thing are a walk by its custom.** -/
theorem Made.walk {α σ : Type} [Entity α] (k : Custom α σ) (id : Uuid) {d e : Data}
    {changes : List Change} (h : Made d changes e) (hd : d.DistinctIds) :
    Walk k.Admits (k.look id d) (actionsOn k.place id changes) (k.look id e) ∧ e.DistinctIds := by
  -- The word grows at its end, since changes are logged in the order in which they are made.
  induction h with
  | none => exact ⟨Walk.rest _, hd⟩
  | @more e e' changes c _ hrun ih =>
    obtain ⟨hwalk, he⟩ := ih
    obtain ⟨-, heffect⟩ := Action.run_ok hrun
    refine ⟨?_, heffect.distinctIds he⟩
    rw [actionsOn, List.map_append, List.filter_append, List.map_singleton]
    cases habout : c.call.action.isAbout k.place id with
    | true =>
      rw [List.filter_cons_of_pos habout, List.filter_nil]
      exact hwalk.concat (Custom.admits_look heffect he habout)
    | false =>
      rw [List.filter_cons_of_neg (by rw [habout]; exact Bool.false_ne_true), List.filter_nil,
        List.append_nil, Custom.look_eq heffect habout]
      exact hwalk

theorem Custom.look_of_mem {α σ : Type} [Entity α] (k : Custom α σ) {d : Data} (hd : d.DistinctIds)
    {x : α} (hx : x ∈ k.listing.items d) : k.look (Entity.id x) d = some (k.view x) := by
  obtain ⟨pre, post, hitems⟩ := List.append_of_mem hx
  have hnodup := k.nodup hd
  rw [hitems] at hnodup
  have hpre : ∀ y ∈ pre, Entity.id y ≠ Entity.id x :=
    fun y hy => id_ne_of_nodup hnodup y (List.mem_append_left post hy)
  rw [look, hitems, Edit.find?_eq_first hpre rfl, Option.map_some]

theorem Custom.look_eq_none {α σ : Type} [Entity α] (k : Custom α σ) {d : Data} {id : Uuid}
    (h : ∀ x ∈ k.listing.items d, Entity.id x ≠ id) : k.look id d = none := by
  have hnone : Entity.find? id (k.listing.items d) = none :=
    List.find?_eq_none.mpr fun x hx => by simpa using h x hx
  rw [look, hnone, Option.map_none]

/-- The walk of a thing begins at what the thing is. -/
theorem Made.walk_of_mem {α σ : Type} [Entity α] (k : Custom α σ) {d e : Data}
    {changes : List Change} (h : Made d changes e) (hd : d.DistinctIds) {x : α}
    (hx : x ∈ k.listing.items d) : Walk k.Admits (some (k.view x))
      (actionsOn k.place (Entity.id x) changes) (k.look (Entity.id x) e) := by
  obtain ⟨hwalk, -⟩ := h.walk k (Entity.id x) hd
  rwa [k.look_of_mem hd hx] at hwalk

/-! ## What the customs say of kinds -/

/-- The kinds of action by which a member comes to have a status. -/
def AccountStatus.cause : AccountStatus → ActionKind
  | active => .unbanMember
  | banned => .banMember

/-- The kind of action by which a campaign comes to have a status. -/
def CampaignStatus.cause : CampaignStatus → ActionKind
  | active => .resumeCampaign
  | paused => .pauseCampaign

theorem count_kind (word : List Action) (kind : ActionKind) :
    (word.map Action.kind).count kind = word.countP fun a => a.kind == kind :=
  List.countP_map

theorem count_kind_add (word : List Action) {k k' : ActionKind} (hne : k ≠ k') :
    (word.map Action.kind).count k + (word.map Action.kind).count k' =
      word.countP fun a => a.kind == k || a.kind == k' := by
  induction word with
  | nil => rfl
  | cons a rest ih =>
    rw [List.map_cons, List.count_cons, List.count_cons, List.countP_cons, ← ih]
    by_cases hk : a.kind = k
    · rw [hk]
      simp [hne]
      omega
    · simp [hk]
      omega

variable {word : List Action}

namespace Member

/-- The kinds of action that are about the ban of a member. -/
def isTurn (kind : ActionKind) : Bool := kind == .banMember || kind == .unbanMember

variable {status : AccountStatus} {verified : Bool} {m : Option (AccountStatus × Bool)}

theorem turns (h : Walk Admits (some (status, verified)) word m) :
    (status.cause :: (word.map Action.kind).filter isTurn).IsChain (· ≠ ·) := by
  rw [← List.filterMap_eq_filter, List.filterMap_map]
  refine h.isChain (Option.guard isTurn ∘ Action.kind)
    (fun m => m.elim .unbanMember fun m => m.1.cause) fun hs => ?_
  cases hs with
  | ban | unban | verify | edit =>
    simp [Action.kind, isTurn, Option.guard, AccountStatus.cause]
  | delete =>
    refine ⟨fun k hk => (by cases hk), fun _ => Or.inr fun b u hb => ?_⟩
    cases hb

theorem count_verify_le (h : Walk Admits (some (status, verified)) word m) :
    (word.map Action.kind).count .verifyMember ≤ if verified = true then 0 else 1 := by
  rw [count_kind]
  refine h.countP_le _ (fun m => m.elim true Prod.snd) fun hs => ?_
  cases hs <;> simp [Action.kind]

theorem count_delete_le (h : Walk Admits (some (status, verified)) word m) :
    (word.map Action.kind).count .deleteMember ≤ 1 := by
  rw [count_kind]
  refine h.countP_le _ Option.isNone fun hs => ?_
  cases hs <;> simp [Action.kind]

theorem nil_after_delete (h : Walk Admits (some (status, verified)) word m)
    {before after : List ActionKind} (hword : word.map Action.kind = before ++ .deleteMember :: after) :
    after = [] := by
  obtain ⟨front, back, rfl, -, hback⟩ := List.map_eq_append_iff.mp hword
  obtain ⟨a, rest, rfl, hkind, rfl⟩ := List.map_eq_cons_iff.mp hback
  have hrest : rest = [] := by
    refine h.eq_nil_of_after fun s u hs b v hb => ?_
    cases hs with
    | delete => cases hb
    | _ => cases hkind
  rw [hrest, List.map_nil]

end Member

namespace Report

variable {status : ReportStatus} {removed : Bool} {r : Option (ReportStatus × Bool)}

theorem count_close_le (h : Walk Admits (some (status, removed)) word r) :
    (word.map Action.kind).count .resolveReport + (word.map Action.kind).count .dismissReport ≤
      if status = .opened then 1 else 0 := by
  rw [count_kind_add word (by decide)]
  have hle := h.countP_le (fun a => a.kind == .resolveReport || a.kind == .dismissReport)
    (fun r => r.elim true fun r => decide (r.1 ≠ .opened)) fun hs => by
      cases hs <;> simp [Action.kind]
  refine Nat.le_trans hle ?_
  by_cases hs : status = .opened <;> simp [hs]

theorem count_takeDown_le (h : Walk Admits (some (status, removed)) word r) :
    (word.map Action.kind).count .removeContent ≤ if removed = true then 0 else 1 := by
  rw [count_kind]
  refine h.countP_le _ (fun r => r.elim true Prod.snd) fun hs => ?_
  cases hs <;> simp [Action.kind]

end Report

namespace Payment

theorem count_refund_le {status : PaymentStatus} {p : Option PaymentStatus}
    (h : Walk Admits (some status) word p) :
    (word.map Action.kind).count .refundPayment ≤ if status = .refunded then 0 else 1 := by
  rw [count_kind]
  have hle := h.countP_le (fun a => a.kind == .refundPayment)
    (fun p => p.elim true fun s => decide (s = .refunded)) fun hs => by
      cases hs
      simp [Action.kind]
  simpa using hle

end Payment

namespace Campaign

theorem turns {status : CampaignStatus} {c : Option CampaignStatus}
    (h : Walk Admits (some status) word c) :
    (status.cause :: word.map Action.kind).IsChain (· ≠ ·) := by
  rw [← List.filterMap_eq_map]
  refine h.isChain (some ∘ Action.kind) (fun c => c.elim .pauseCampaign CampaignStatus.cause)
    fun hs => ?_
  cases hs <;> simp [Action.kind, CampaignStatus.cause]

end Campaign

namespace TeamMember

/-- The role that the action gives. -/
def given? : Action → Option Role
  | .assignRole _ role => some role
  | _ => none

theorem turns {role : Role} {t : Option Role} (h : Walk Admits (some role) word t) :
    (role :: word.filterMap given?).IsChain (· ≠ ·) := by
  refine h.isChain given? (fun t => t.getD .owner) fun hs => ?_
  cases hs with
  | assign hne => simp [given?, hne]

end TeamMember

/-! ## Whole runs -/

theorem kind_of_mem_actionsOn {s : Section} {id : Uuid} {changes : List Change} {kind : ActionKind}
    (h : kind ∈ (actionsOn s id changes).map Action.kind) : kind.place = s := by
  obtain ⟨a, ha, rfl⟩ := List.mem_map.mp h
  exact (Action.isAbout_iff.mp (List.mem_filter.mp ha).2).1

namespace Floor

/-- **What happens to one thing is a lifecycle.**  From data with distinct identifiers, however the
calls interleave, the changes that they make to one thing are in order.  A member is banned and
unbanned in turn, beginning with what its status lets it be, is verified at most once and never if
it was before, and is deleted at most once, after which nothing happens to it; nothing ever happens
to a member that was not there.  A report is closed at most once in either way, and its content is
taken down at most once; a payment is refunded at most once; a campaign is paused and resumed in
turn; and an operator is never given the role that it has. -/
theorem lifecycles (start : Console) (hd : start.data.DistinctIds) (moves : List Move) :
    let changes := ((opened start).run moves).changes
    let kinds := fun s id => (actionsOn s id changes).map Action.kind
    (∀ m ∈ start.data.members,
      (m.status.cause :: (kinds .members m.id).filter Member.isTurn).IsChain (· ≠ ·) ∧
      (kinds .members m.id).count .verifyMember ≤ (if m.verified = true then 0 else 1) ∧
      (kinds .members m.id).count .deleteMember ≤ 1 ∧
      ∀ before after, kinds .members m.id = before ++ .deleteMember :: after → after = []) ∧
    (∀ id, (∀ m ∈ start.data.members, m.id ≠ id) → kinds .members id = []) ∧
    (∀ r ∈ start.data.reports,
      (kinds .reports r.id).count .resolveReport + (kinds .reports r.id).count .dismissReport ≤
        (if r.status = .opened then 1 else 0) ∧
      (kinds .reports r.id).count .removeContent ≤ (if r.contentRemoved = true then 0 else 1)) ∧
    (∀ p ∈ start.data.payments,
      (kinds .payments p.id).count .refundPayment ≤ (if p.status = .refunded then 0 else 1)) ∧
    (∀ c ∈ start.data.campaigns,
      (c.status.cause :: kinds .campaigns c.id).IsChain (· ≠ ·) ∧
      ∀ kind ∈ kinds .campaigns c.id, kind = .pauseCampaign ∨ kind = .resumeCampaign) ∧
    ∀ t ∈ start.data.team,
      (t.role :: (actionsOn .team t.id changes).filterMap TeamMember.given?).IsChain (· ≠ ·) := by
  intro changes kinds
  have hmade : Made start.data changes ((opened start).run moves).console.data :=
    ((Accounted.opened start).run moves).made
  refine ⟨fun m hm => ?_, fun id hid => ?_, fun r hr => ?_, fun p hp => ?_, fun c hc => ?_,
    fun t ht => ?_⟩
  · have hwalk := hmade.walk_of_mem Member.custom hd hm
    exact ⟨Member.turns hwalk, Member.count_verify_le hwalk, Member.count_delete_le hwalk,
      fun before after hword => Member.nil_after_delete hwalk hword⟩
  · obtain ⟨hwalk, -⟩ := hmade.walk Member.custom id hd
    rw [Member.custom.look_eq_none hid] at hwalk
    have hnothing : actionsOn .members id changes = [] := hwalk.eq_nil fun a u ha => by cases ha
    exact congrArg (List.map Action.kind) hnothing
  · have hwalk := hmade.walk_of_mem Report.custom hd hr
    exact ⟨Report.count_close_le hwalk, Report.count_takeDown_le hwalk⟩
  · have hwalk := hmade.walk_of_mem Payment.custom hd hp
    exact Payment.count_refund_le hwalk
  · have hwalk := hmade.walk_of_mem Campaign.custom hd hc
    refine ⟨Campaign.turns hwalk, fun kind hkind => ?_⟩
    have hplace := kind_of_mem_actionsOn hkind
    cases kind <;> first | exact Or.inl rfl | exact Or.inr rfl | cases hplace
  · have hwalk := hmade.walk_of_mem TeamMember.custom hd ht
    exact TeamMember.turns hwalk

/-- Somebody bans a member, lifts the ban, and deletes the member while another call still wants to
verify it. -/
def sampleFarewell : List Move :=
  let call (a : Action) : Call :=
    { actor := { id := Sample.operatorId 1, role := .owner }
      origin := { ip := "127.0.0.1", device := "Firefox" }
      action := a }
  let occasion : Occasion := { now := Sample.daysAgo 0, recordId := .ofNat 1 }
  let member := Sample.memberId 3
  wholeCall (call (.banMember member none)) 0 occasion ++
    wholeCall (call (.unbanMember member)) 1 occasion ++
    [.ask (call (.verifyMember member)), .turn 2 .check, .turn 2 .spawn] ++
    wholeCall (call (.deleteMember member)) 3 occasion ++ [.turn 2 (.mutate occasion.now)]

theorem lifecycles_sampleFarewell :
    let changes := ((opened Console.sample).run sampleFarewell).changes
    Console.sample.data.DistinctIds ∧
    (actionsOn .members (Sample.memberId 3) changes).map Action.kind =
      [.banMember, .unbanMember, .deleteMember] ∧
    (∀ m ∈ Console.sample.data.members,
      ((actionsOn .members m.id changes).map Action.kind).count .deleteMember ≤ 1) := by
  refine ⟨Data.distinctIds_sample, by decide, fun m hm => ?_⟩
  exact ((lifecycles Console.sample Data.distinctIds_sample sampleFarewell).1 m hm).2.2.1

end Floor

end AdminConsole
