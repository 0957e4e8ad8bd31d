import AdminConsole.Proofs.Action.Frame
import AdminConsole.Proofs.Trail.Standing

/-! # What becomes of a thing

A performed action meets one thing of its section, which it changes or removes;
every other identifier means what it meant (`Listing.Met`).  Which actions a
thing admits, and what they make of it, is the `Custom` of its section: a table
of what may happen to a thing, with the proof that performed actions keep to it.
There is one for each of the five sections whose things can be acted on.
-/
namespace AdminConsole

/-! ## The thing that is met -/

namespace Action

/-- The identifier of the thing that the action is about. -/
def addressee? : Action → Option Uuid
  | banMember id _ | unbanMember id | verifyMember id | editMember id _ | deleteMember id
  | resolveReport id _ | dismissReport id _ | removeContent id | refundPayment id _
  | pauseCampaign id | resumeCampaign id | assignRole id _ => some id
  | updateSettings _ => none

/-- The thing that the action is about: its section and, where there are many, its identifier. -/
def entity (a : Action) : Section × Option Uuid := (a.kind.place, a.addressee?)

/-- The action is about the thing with the identifier in a section. -/
def isAbout (s : Section) (id : Uuid) (a : Action) : Bool :=
  a.kind.place == s && a.addressee? == some id

theorem isAbout_iff {s : Section} {id : Uuid} {a : Action} :
    a.isAbout s id = true ↔ a.kind.place = s ∧ a.addressee? = some id := by
  rw [isAbout, Bool.and_eq_true, beq_iff_eq, beq_iff_eq]

end Action

namespace Listing

variable {α : Type} [Entity α] {l : Listing α} {target other : Uuid} {x : α} {x? : Option α}
  {d d' : Data}

/-- From `d` to `d'` the first thing with the identifier, which is `x`, became `x?` or went. -/
def Met (l : Listing α) (target : Uuid) (x : α) (x? : Option α) (d d' : Data) : Prop :=
  ∃ pre post, l.items d = pre ++ x :: post ∧ (∀ y ∈ pre, Entity.id y ≠ target) ∧
    Entity.id x = target ∧ (∀ y, x? = some y → Entity.id y = target) ∧
    l.items d' = pre ++ (x?.toList ++ post)

theorem Turned.met {before : α → Prop} {after : α → α} {result : Affected}
    (h : l.Turned target before after d result d') (hid : ∀ a, Entity.id (after a) = Entity.id a) :
    ∃ x, before x ∧ l.Met target x (some (after x)) d d' := by
  obtain ⟨x, hx, ⟨pre, post, hitems, hpre, ha, rfl⟩, -⟩ := h
  refine ⟨x, hx, pre, post, hitems, hpre, ha, fun y hy => ?_, l.items_put _ _⟩
  obtain rfl := Option.some.inj hy
  exact (hid x).trans ha

theorem Removed.met {a : α} (h : l.Removed target a d d') : l.Met target a none d d' := by
  obtain ⟨pre, post, hitems, hpre, ha, rfl⟩ := h
  refine ⟨pre, post, hitems, hpre, ha, fun y hy => ?_, l.items_put _ _⟩
  cases hy

theorem Met.find?_before (h : l.Met target x x? d d') :
    Entity.find? target (l.items d) = some x := by
  obtain ⟨pre, post, hitems, hpre, hx, -, -⟩ := h
  rw [hitems]
  exact Edit.find?_eq_first hpre hx

/-- A thing that went leaves no other with its identifier, as there was none before. -/
theorem Met.find?_after (h : l.Met target x x? d d') (hd : ((l.items d).map Entity.id).Nodup) :
    Entity.find? target (l.items d') = x? := by
  obtain ⟨pre, post, hitems, hpre, hx, hx?, hitems'⟩ := h
  rw [hitems']
  cases x? with
  | some y => exact Edit.find?_eq_first hpre (hx? y rfl)
  | none =>
    rw [hitems] at hd
    refine List.find?_eq_none.mpr fun y hy => ?_
    have hne : Entity.id y ≠ Entity.id x := id_ne_of_nodup hd y hy
    simpa [hx] using hne

/-- Any other identifier means what it meant. -/
theorem Met.find?_other (h : l.Met target x x? d d') (hne : other ≠ target) :
    Entity.find? other (l.items d') = Entity.find? other (l.items d) := by
  obtain ⟨pre, post, hitems, -, hx, hx?, hitems'⟩ := h
  have hskip : ∀ y : α, Entity.id y = target →
      Entity.find? other (y :: post) = Entity.find? other post := by
    intro y hy
    refine List.find?_cons_of_neg ?_
    simpa [hy] using hne.symm
  have hrest : Entity.find? other (x?.toList ++ post) = Entity.find? other (x :: post) := by
    rw [hskip x hx]
    cases x? with
    | some y => exact hskip y (hx? y rfl)
    | none => rfl
  have happend : ∀ ys : List α, Entity.find? other (pre ++ ys) =
      (Entity.find? other pre).or (Entity.find? other ys) := fun _ => List.find?_append
  rw [hitems, hitems', happend, happend, hrest]

end Listing


/-! ## Customs -/

/-- The actions that the things of a section admit, by as much of a thing as they depend on, and
what it is afterwards.  What is not there admits nothing. -/
structure Custom (α σ : Type) [Entity α] where
  listing : Listing α
  place : Section
  view : α → σ
  Admits : Option σ → Action → Option σ → Prop
  beside : ∀ {s : Section} {d d' : Data}, Data.Beside s d d' → s ≠ place →
    listing.items d' = listing.items d
  nodup : ∀ {d : Data}, d.DistinctIds → ((listing.items d).map Entity.id).Nodup
  met : ∀ {actor : Uuid} {now : Instant} {a : Action} {d d' : Data} {result : Affected},
    a.Effect actor now d result d' → a.kind.place = place →
      ∃ id x x?, a.addressee? = some id ∧ listing.Met id x x? d d' ∧
        Admits (some (view x)) a (x?.map view)

namespace Custom

variable {α σ : Type} [Entity α] (k : Custom α σ)

/-- What is to be seen of the thing with the identifier. -/
def look (id : Uuid) (d : Data) : Option σ := (Entity.find? id (k.listing.items d)).map k.view

variable {k} {actor id : Uuid} {now : Instant} {a : Action} {d d' : Data} {result : Affected}

/-- A performed action keeps to the custom of the thing that it is about. -/
theorem admits_look (h : a.Effect actor now d result d') (hd : d.DistinctIds)
    (ha : a.isAbout k.place id = true) : k.Admits (k.look id d) a (k.look id d') := by
  obtain ⟨hplace, hid⟩ := Action.isAbout_iff.mp ha
  obtain ⟨id', x, x?, hid', hmet, hadmits⟩ := k.met h hplace
  obtain rfl := Option.some.inj (hid.symm.trans hid')
  rw [look, look, hmet.find?_before, hmet.find?_after (k.nodup hd)]
  exact hadmits

/-- A performed action does not show in any other thing. -/
theorem look_eq (h : a.Effect actor now d result d') (ha : a.isAbout k.place id = false) :
    k.look id d' = k.look id d := by
  unfold look
  by_cases hplace : a.kind.place = k.place
  · obtain ⟨id', x, x?, hid', hmet, -⟩ := k.met h hplace
    have hne : id ≠ id' := by
      rintro rfl
      exact absurd (Action.isAbout_iff.mpr ⟨hplace, hid'⟩) (by rw [ha]; exact Bool.false_ne_true)
    rw [hmet.find?_other hne]
  · rw [k.beside h.beside hplace]

end Custom

/-! ## The five customs -/

section Customs

variable {actor : Uuid} {now : Instant} {a : Action} {d d' : Data} {result : Affected}

namespace Member

/-- A member that is active can be banned, and one that is banned unbanned; one that is not verified
can be verified.  A member can always be edited and deleted. -/
inductive Admits : Option (AccountStatus × Bool) → Action → Option (AccountStatus × Bool) → Prop
  | ban {id : Uuid} {reason : Option String} {verified : Bool} :
      Admits (some (.active, verified)) (.banMember id reason) (some (.banned, verified))
  | unban {id : Uuid} {verified : Bool} :
      Admits (some (.banned, verified)) (.unbanMember id) (some (.active, verified))
  | verify {id : Uuid} {status : AccountStatus} :
      Admits (some (status, false)) (.verifyMember id) (some (status, true))
  | edit {id : Uuid} {u : MemberUpdate} {status : AccountStatus} {verified : Bool} :
      Admits (some (status, verified)) (.editMember id u) (some (status, verified))
  | delete {id : Uuid} {status : AccountStatus} {verified : Bool} :
      Admits (some (status, verified)) (.deleteMember id) none

/-- What of a member its custom depends on. -/
def seen (m : Member) : AccountStatus × Bool := (m.status, m.verified)

theorem met (h : a.Effect actor now d result d') (hplace : a.kind.place = .members) :
    ∃ id m m?, a.addressee? = some id ∧ Listing.members.Met id m m? d d' ∧
      Admits (some m.seen) a (m?.map seen) := by
  cases a with
  | banMember id reason =>
    obtain ⟨m, hm, hmet⟩ := Listing.Turned.met h fun _ => rfl
    have hactive : m.status = .active := by
      cases hs : m.status with
      | active => rfl
      | banned => exact absurd hs hm
    refine ⟨id, m, _, rfl, hmet, ?_⟩
    rw [seen, hactive]
    exact Admits.ban
  | unbanMember id =>
    obtain ⟨m, hm, hmet⟩ := Listing.Turned.met h fun _ => rfl
    refine ⟨id, m, _, rfl, hmet, ?_⟩
    rw [seen, hm]
    exact Admits.unban
  | verifyMember id =>
    obtain ⟨m, hm, hmet⟩ := Listing.Turned.met h fun _ => rfl
    refine ⟨id, m, _, rfl, hmet, ?_⟩
    rw [seen, hm]
    exact Admits.verify
  | editMember id u =>
    obtain ⟨m, -, hmet⟩ := Listing.Turned.met h.2 fun _ => rfl
    exact ⟨id, m, _, rfl, hmet, Admits.edit⟩
  | deleteMember id =>
    obtain ⟨m, hm, -⟩ := h
    exact ⟨id, m, none, rfl, hm.met, Admits.delete⟩
  | _ => cases hplace

/-- The custom of members. -/
def custom : Custom Member (AccountStatus × Bool) where
  listing := Listing.members
  place := .members
  view := seen
  Admits := Admits
  beside h := h.members
  nodup h := h.members
  met := met

end Member

namespace Report

/-- A report that is open can be closed, and content that is not taken down can be. -/
inductive Admits : Option (ReportStatus × Bool) → Action → Option (ReportStatus × Bool) → Prop
  | resolve {id : Uuid} {note : Option String} {removed : Bool} :
      Admits (some (.opened, removed)) (.resolveReport id note) (some (.resolved, removed))
  | dismiss {id : Uuid} {note : Option String} {removed : Bool} :
      Admits (some (.opened, removed)) (.dismissReport id note) (some (.dismissed, removed))
  | takeDown {id : Uuid} {status : ReportStatus} :
      Admits (some (status, false)) (.removeContent id) (some (status, true))

/-- What of a report its custom depends on. -/
def seen (r : Report) : ReportStatus × Bool := (r.status, r.contentRemoved)

theorem met (h : a.Effect actor now d result d') (hplace : a.kind.place = .reports) :
    ∃ id r r?, a.addressee? = some id ∧ Listing.reports.Met id r r? d d' ∧
      Admits (some r.seen) a (r?.map seen) := by
  cases a with
  | resolveReport id note =>
    obtain ⟨r, hr, hmet⟩ := Listing.Turned.met h fun _ => rfl
    refine ⟨id, r, _, rfl, hmet, ?_⟩
    rw [seen, hr]
    exact Admits.resolve
  | dismissReport id note =>
    obtain ⟨r, hr, hmet⟩ := Listing.Turned.met h fun _ => rfl
    refine ⟨id, r, _, rfl, hmet, ?_⟩
    rw [seen, hr]
    exact Admits.dismiss
  | removeContent id =>
    obtain ⟨r, hr, hmet⟩ := Listing.Turned.met h fun _ => rfl
    refine ⟨id, r, _, rfl, hmet, ?_⟩
    rw [seen, hr]
    exact Admits.takeDown
  | _ => cases hplace

/-- The custom of reports. -/
def custom : Custom Report (ReportStatus × Bool) where
  listing := Listing.reports
  place := .reports
  view := seen
  Admits := Admits
  beside h := h.reports
  nodup h := h.reports
  met := met

end Report

namespace Payment

/-- A payment that is settled can be refunded. -/
inductive Admits : Option PaymentStatus → Action → Option PaymentStatus → Prop
  | refund {id : Uuid} {reason : Option String} :
      Admits (some .settled) (.refundPayment id reason) (some .refunded)

theorem met (h : a.Effect actor now d result d') (hplace : a.kind.place = .payments) :
    ∃ id p p?, a.addressee? = some id ∧ Listing.payments.Met id p p? d d' ∧
      Admits (some p.status) a (p?.map Payment.status) := by
  cases a with
  | refundPayment id reason =>
    obtain ⟨p, hp, hmet⟩ := Listing.Turned.met h fun _ => rfl
    have hsettled : p.status = .settled := by
      cases hs : p.status with
      | settled => rfl
      | refunded => exact absurd hs hp
    refine ⟨id, p, _, rfl, hmet, ?_⟩
    rw [hsettled]
    exact Admits.refund
  | _ => cases hplace

/-- The custom of payments. -/
def custom : Custom Payment PaymentStatus where
  listing := Listing.payments
  place := .payments
  view := Payment.status
  Admits := Admits
  beside h := h.payments
  nodup h := h.payments
  met := met

end Payment

namespace Campaign

/-- A campaign that is active can be paused, and one that is paused resumed. -/
inductive Admits : Option CampaignStatus → Action → Option CampaignStatus → Prop
  | pause {id : Uuid} : Admits (some .active) (.pauseCampaign id) (some .paused)
  | resume {id : Uuid} : Admits (some .paused) (.resumeCampaign id) (some .active)

theorem met (h : a.Effect actor now d result d') (hplace : a.kind.place = .campaigns) :
    ∃ id c c?, a.addressee? = some id ∧ Listing.campaigns.Met id c c? d d' ∧
      Admits (some c.status) a (c?.map Campaign.status) := by
  cases a with
  | pauseCampaign id =>
    obtain ⟨c, hc, hmet⟩ := Listing.Turned.met h fun _ => rfl
    have hactive : c.status = .active := by
      cases hs : c.status with
      | active => rfl
      | paused => exact absurd hs hc
    refine ⟨id, c, _, rfl, hmet, ?_⟩
    rw [hactive]
    exact Admits.pause
  | resumeCampaign id =>
    obtain ⟨c, hc, hmet⟩ := Listing.Turned.met h fun _ => rfl
    have hpaused : c.status = .paused := by
      cases hs : c.status with
      | active => exact absurd hs hc
      | paused => rfl
    refine ⟨id, c, _, rfl, hmet, ?_⟩
    rw [hpaused]
    exact Admits.resume
  | _ => cases hplace

/-- The custom of campaigns. -/
def custom : Custom Campaign CampaignStatus where
  listing := Listing.campaigns
  place := .campaigns
  view := Campaign.status
  Admits := Admits
  beside h := h.campaigns
  nodup h := h.campaigns
  met := met

end Campaign

namespace TeamMember

/-- An operator can be given any role but the present one. -/
inductive Admits : Option Role → Action → Option Role → Prop
  | assign {id : Uuid} {role role' : Role} : role ≠ role' →
      Admits (some role) (.assignRole id role') (some role')

theorem met (h : a.Effect actor now d result d') (hplace : a.kind.place = .team) :
    ∃ id t t?, a.addressee? = some id ∧ Listing.team.Met id t t? d d' ∧
      Admits (some t.role) a (t?.map TeamMember.role) := by
  cases a with
  | assignRole id role =>
    obtain ⟨t, ht, hmet⟩ := Listing.Turned.met h fun _ => rfl
    exact ⟨id, t, _, rfl, hmet, Admits.assign ht.1⟩
  | _ => cases hplace

/-- The custom of the team. -/
def custom : Custom TeamMember Role where
  listing := Listing.team
  place := .team
  view := TeamMember.role
  Admits := Admits
  beside h := h.team
  nodup h := h.team
  met := met

end TeamMember

end Customs

end AdminConsole
