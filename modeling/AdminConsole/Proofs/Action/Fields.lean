import AdminConsole.Proofs.Action.Frame

/-! # The fields that an action writes

Things are records of fields, and `SameBut` compares two of them in every field
but those that are listed.  The table of the fields that a kind of action may
write (`ActionKind.fields`) has one line for each kind.  A single action may
write fewer: a partial update writes what it mentions, and a handler is noted
where there is none (`Action.touches`).

`Action.Confined` says what of the data an action leaves alone, which is all but
those fields of the one thing that it is about, and that its result is the copy
of that thing.  Every action that is performed is confined
(`Action.Effect.confined`).
-/
namespace AdminConsole

/-! ## Fields -/

/-- The fields of a member. -/
inductive Member.Field
  | id
  | displayName
  | email
  | age
  | city
  | status
  | verified
  | premium
  | reportsReceived
  | banReason
  | joinedAt
  | lastActiveAt
  deriving DecidableEq, Repr

/-- The fields of a report. -/
inductive Report.Field
  | id
  | reportedMember
  | reporter
  | category
  | details
  | status
  | contentRemoved
  | createdAt
  | handledBy
  | resolutionNote
  deriving DecidableEq, Repr

/-- The fields of a payment. -/
inductive Payment.Field
  | id
  | member
  | product
  | amount
  | currency
  | status
  | createdAt
  | refundedAt
  | refundReason
  deriving DecidableEq, Repr

/-- The fields of a campaign. -/
inductive Campaign.Field
  | id
  | name
  | placement
  | status
  | impressions
  | clicks
  | conversions
  | spend
  deriving DecidableEq, Repr

/-- The fields of an operator. -/
inductive TeamMember.Field
  | id
  | name
  | email
  | role
  | lastLoginAt
  deriving DecidableEq, Repr

/-- What can be written in the data: who is a member at all, a field of the things in a list, or a
setting. -/
inductive Data.Field
  | membership
  | member (f : Member.Field)
  | report (f : Report.Field)
  | payment (f : Payment.Field)
  | campaign (f : Campaign.Field)
  | operator (f : TeamMember.Field)
  | setting (key : SettingsKey)
  deriving DecidableEq, Repr

/-- Things that have fields and nothing beside them. -/
class Fielded (α : Type) where
  Field : Type
  Value : Field → Type
  read : (f : Field) → α → Value f
  /-- The field as one of the data. -/
  inData : Field → Data.Field
  ext : ∀ a b : α, (∀ f, read f a = read f b) → a = b

instance : Fielded Member where
  Field := Member.Field
  Value
    | .id => Uuid
    | .displayName | .email | .city => String
    | .age => UInt8
    | .status => AccountStatus
    | .verified | .premium => Bool
    | .reportsReceived => UInt32
    | .banReason => Option String
    | .joinedAt | .lastActiveAt => Instant
  read
    | .id => Member.id
    | .displayName => Member.displayName
    | .email => Member.email
    | .age => Member.age
    | .city => Member.city
    | .status => Member.status
    | .verified => Member.verified
    | .premium => Member.premium
    | .reportsReceived => Member.reportsReceived
    | .banReason => Member.banReason
    | .joinedAt => Member.joinedAt
    | .lastActiveAt => Member.lastActiveAt
  inData := .member
  ext a b h := by
    cases a
    cases b
    simp only [Member.mk.injEq]
    exact ⟨h .id, h .displayName, h .email, h .age, h .city, h .status, h .verified, h .premium,
      h .reportsReceived, h .banReason, h .joinedAt, h .lastActiveAt⟩

instance : Fielded Report where
  Field := Report.Field
  Value
    | .id | .reportedMember | .reporter => Uuid
    | .category => ReportCategory
    | .details => String
    | .status => ReportStatus
    | .contentRemoved => Bool
    | .createdAt => Instant
    | .handledBy => Option Uuid
    | .resolutionNote => Option String
  read
    | .id => Report.id
    | .reportedMember => Report.reportedMember
    | .reporter => Report.reporter
    | .category => Report.category
    | .details => Report.details
    | .status => Report.status
    | .contentRemoved => Report.contentRemoved
    | .createdAt => Report.createdAt
    | .handledBy => Report.handledBy
    | .resolutionNote => Report.resolutionNote
  inData := .report
  ext a b h := by
    cases a
    cases b
    simp only [Report.mk.injEq]
    exact ⟨h .id, h .reportedMember, h .reporter, h .category, h .details, h .status,
      h .contentRemoved, h .createdAt, h .handledBy, h .resolutionNote⟩

instance : Fielded Payment where
  Field := Payment.Field
  Value
    | .id | .member => Uuid
    | .product => Product
    | .amount => Int64
    | .currency => String
    | .status => PaymentStatus
    | .createdAt => Instant
    | .refundedAt => Option Instant
    | .refundReason => Option String
  read
    | .id => Payment.id
    | .member => Payment.member
    | .product => Payment.product
    | .amount => Payment.amount
    | .currency => Payment.currency
    | .status => Payment.status
    | .createdAt => Payment.createdAt
    | .refundedAt => Payment.refundedAt
    | .refundReason => Payment.refundReason
  inData := .payment
  ext a b h := by
    cases a
    cases b
    simp only [Payment.mk.injEq]
    exact ⟨h .id, h .member, h .product, h .amount, h .currency, h .status, h .createdAt,
      h .refundedAt, h .refundReason⟩

instance : Fielded Campaign where
  Field := Campaign.Field
  Value
    | .id => Uuid
    | .name | .placement => String
    | .status => CampaignStatus
    | .impressions | .clicks | .conversions => UInt64
    | .spend => Int64
  read
    | .id => Campaign.id
    | .name => Campaign.name
    | .placement => Campaign.placement
    | .status => Campaign.status
    | .impressions => Campaign.impressions
    | .clicks => Campaign.clicks
    | .conversions => Campaign.conversions
    | .spend => Campaign.spend
  inData := .campaign
  ext a b h := by
    cases a
    cases b
    simp only [Campaign.mk.injEq]
    exact ⟨h .id, h .name, h .placement, h .status, h .impressions, h .clicks, h .conversions,
      h .spend⟩

instance : Fielded TeamMember where
  Field := TeamMember.Field
  Value
    | .id => Uuid
    | .name | .email => String
    | .role => Role
    | .lastLoginAt => Option Instant
  read
    | .id => TeamMember.id
    | .name => TeamMember.name
    | .email => TeamMember.email
    | .role => TeamMember.role
    | .lastLoginAt => TeamMember.lastLoginAt
  inData := .operator
  ext a b h := by
    cases a
    cases b
    simp only [TeamMember.mk.injEq]
    exact ⟨h .id, h .name, h .email, h .role, h .lastLoginAt⟩

instance : Fielded Settings where
  Field := SettingsKey
  Value
    | .maintenanceMode | .newSignupsEnabled => Bool
    | .minimumAge => UInt8
    | .maxDailyLikes | .autoFlagThreshold => UInt32
    | .supportEmail => String
  read
    | .maintenanceMode => Settings.maintenanceMode
    | .newSignupsEnabled => Settings.newSignupsEnabled
    | .minimumAge => Settings.minimumAge
    | .maxDailyLikes => Settings.maxDailyLikes
    | .autoFlagThreshold => Settings.autoFlagThreshold
    | .supportEmail => Settings.supportEmail
  inData := .setting
  ext a b h := by
    cases a
    cases b
    simp only [Settings.mk.injEq]
    exact ⟨h .maintenanceMode, h .newSignupsEnabled, h .minimumAge, h .maxDailyLikes,
      h .autoFlagThreshold, h .supportEmail⟩

/-! ## The same but for some fields -/

/-- `b` is `a` in every field but those that are written. -/
def SameBut {α : Type} [Fielded α] (written : List Data.Field) (a b : α) : Prop :=
  ∀ f : Fielded.Field α, Fielded.inData f ∉ written → Fielded.read f b = Fielded.read f a

namespace SameBut

variable {α : Type} [Fielded α] {written more : List Data.Field} {a b c : α}

theorem refl (a : α) : SameBut written a a := fun _ _ => rfl

theorem trans (h : SameBut written a b) (h' : SameBut written b c) : SameBut written a c :=
  fun f hf => (h' f hf).trans (h f hf)

theorem mono (h : SameBut written a b) (hsub : written ⊆ more) : SameBut more a b :=
  fun f hf => h f fun hmem => hf (hsub hmem)

/-- Where none of its fields is written, a thing stays what it is. -/
theorem eq (h : SameBut written a b) (hnone : ∀ f : Fielded.Field α, Fielded.inData f ∉ written) :
    b = a :=
  Fielded.ext b a fun f => h f (hnone f)

/-- Each field is one of the written ones, or it is the same. -/
theorem of_or (h : ∀ f : Fielded.Field α, Fielded.inData f ∈ written ∨
    Fielded.read f b = Fielded.read f a) : SameBut written a b :=
  fun f hf => (h f).resolve_left hf

end SameBut

/-! ## The table -/

/-- The fields that actions of the kind may write. -/
def ActionKind.fields : ActionKind → List Data.Field
  | banMember | unbanMember => [.member .status, .member .banReason]
  | verifyMember => [.member .verified]
  | editMember => [.member .displayName, .member .email, .member .city]
  | deleteMember => [.membership]
  | resolveReport | dismissReport =>
    [.report .status, .report .handledBy, .report .resolutionNote]
  | removeContent => [.report .contentRemoved, .report .handledBy]
  | refundPayment => [.payment .status, .payment .refundedAt, .payment .refundReason]
  | pauseCampaign | resumeCampaign => [.campaign .status]
  | assignRole => [.operator .role]
  | updateSettings => SettingsKey.all.map .setting

/-- The field of a member is mentioned. -/
def MemberUpdate.mentions (u : MemberUpdate) : Member.Field → Bool
  | .displayName => u.displayName.isSome
  | .email => u.email.isSome
  | .city => u.city.isSome
  | _ => false

namespace Action

/-- Of the fields that its kind may write, those that the action does write: an update writes what
it mentions, and a handler is noted where there is none. -/
def touches (d : Data) : Action → Data.Field → Bool
  | editMember _ u, .member f => u.mentions f
  | updateSettings u, .setting key => u.mentions key
  | removeContent id, .report .handledBy =>
    ((Entity.find? id d.reports).bind Report.handledBy).isNone
  | _, _ => true

/-- The fields that the action writes, of the thing that it is about. -/
def writes (d : Data) (a : Action) : List Data.Field := a.kind.fields.filter (a.touches d)

theorem writes_subset (d : Data) (a : Action) : a.writes d ⊆ a.kind.fields :=
  fun _ hf => List.mem_of_mem_filter hf

end Action

/-! ## Changes of single things -/

namespace Member

theorem sameBut_afterBan (reason : Option String) (m : Member) :
    SameBut ActionKind.banMember.fields m (m.afterBan reason) :=
  .of_or fun f => by cases f <;> first | exact Or.inr rfl | exact Or.inl (by decide)

theorem sameBut_afterUnban (m : Member) : SameBut ActionKind.unbanMember.fields m m.afterUnban :=
  .of_or fun f => by cases f <;> first | exact Or.inr rfl | exact Or.inl (by decide)

theorem sameBut_afterVerify (m : Member) :
    SameBut ActionKind.verifyMember.fields m m.afterVerify :=
  .of_or fun f => by cases f <;> first | exact Or.inr rfl | exact Or.inl (by decide)

end Member

namespace Report

/-- Reports are resolved and dismissed alike. -/
theorem sameBut_afterClose (status : ReportStatus) (handler : Uuid) (note : Option String)
    (r : Report) : SameBut ActionKind.resolveReport.fields r (r.afterClose status handler note) :=
  .of_or fun f => by cases f <;> first | exact Or.inr rfl | exact Or.inl (by decide)

end Report

theorem Payment.sameBut_afterRefund (now : Instant) (reason : Option String) (p : Payment) :
    SameBut ActionKind.refundPayment.fields p (p.afterRefund now reason) :=
  .of_or fun f => by cases f <;> first | exact Or.inr rfl | exact Or.inl (by decide)

/-- Campaigns are paused and resumed alike. -/
theorem Campaign.sameBut_afterTurn (status : CampaignStatus) (c : Campaign) :
    SameBut ActionKind.pauseCampaign.fields c (c.afterTurn status) :=
  .of_or fun f => by cases f <;> first | exact Or.inr rfl | exact Or.inl (by decide)

theorem TeamMember.sameBut_afterAssign (role : Role) (t : TeamMember) :
    SameBut ActionKind.assignRole.fields t (t.afterAssign role) :=
  .of_or fun f => by cases f <;> first | exact Or.inr rfl | exact Or.inl (by decide)

/-- What is not mentioned is not written. -/
theorem getD_map_of_isNone {α : Type} {value : Option α} (g : α → α) {old : α}
    (h : value.isSome = false) : (value.map g).getD old = old := by
  rw [Option.isSome_eq_false_iff, Option.isNone_iff_eq_none] at h
  rw [h, Option.map_none, Option.getD_none]

/-- An update of a member writes no field that it does not mention. -/
theorem MemberUpdate.read_applyTo {u : MemberUpdate} {f : Member.Field}
    (h : u.mentions f = false) (m : Member) :
    Fielded.read f (u.applyTo m) = Fielded.read f m := by
  cases f with
  | displayName => exact getD_map_of_isNone Text.trim h
  | email => exact getD_map_of_isNone Text.trim h
  | city => exact getD_map_of_isNone Text.trim h
  | _ => rfl

theorem MemberUpdate.mem_fields {u : MemberUpdate} {f : Member.Field} (h : u.mentions f = true) :
    .member f ∈ ActionKind.editMember.fields := by
  cases f <;> first | cases h | decide

theorem SettingsKey.mem_all (key : SettingsKey) : key ∈ all := by cases key <;> decide

theorem SettingsKey.mem_fields (key : SettingsKey) :
    .setting key ∈ ActionKind.updateSettings.fields :=
  List.mem_map_of_mem key.mem_all

/-- An update of the settings writes no setting that it does not mention. -/
theorem SettingsUpdate.read_applyTo {u : SettingsUpdate} {key : SettingsKey}
    (h : u.mentions key = false) (s : Settings) :
    Fielded.read key (u.applyTo s) = Fielded.read key s := by
  cases key with
  | supportEmail => exact getD_map_of_isNone Text.trim h
  | _ =>
    rw [mentions, Option.isSome_eq_false_iff, Option.isNone_iff_eq_none] at h
    simp only [Fielded.read, applyTo, h, Option.getD_none]

namespace Action

variable {d : Data} {id : Uuid}

theorem sameBut_editMember (d : Data) (id : Uuid) (u : MemberUpdate) (m : Member) :
    SameBut ((editMember id u).writes d) m (u.applyTo m) :=
  .of_or fun f => by
    cases hf : u.mentions f with
    | false => exact Or.inr (MemberUpdate.read_applyTo hf m)
    | true => exact Or.inl (List.mem_filter.mpr ⟨MemberUpdate.mem_fields hf, hf⟩)

theorem sameBut_updateSettings (d : Data) (u : SettingsUpdate) (s : Settings) :
    SameBut ((updateSettings u).writes d) s (u.applyTo s) :=
  .of_or fun key => by
    cases hkey : u.mentions key with
    | false => exact Or.inr (SettingsUpdate.read_applyTo hkey s)
    | true => exact Or.inl (List.mem_filter.mpr ⟨SettingsKey.mem_fields key, hkey⟩)

theorem sameBut_removeContent {r : Report} (hr : Entity.find? id d.reports = some r)
    (handler : Uuid) :
    SameBut ((removeContent id).writes d) r (r.afterTakeDown handler) := by
  have htouches : (removeContent id).touches d (.report .handledBy) = !r.handledBy.isSome := by
    rw [touches, hr, Option.bind_some, Option.not_isSome]
  refine .of_or fun f => ?_
  -- The handler is among the written fields exactly if it is written, so it needs both cases.
  cases f with
  | contentRemoved => exact Or.inl List.mem_cons_self
  | handledBy =>
    cases hhandler : r.handledBy.isSome with
    | true => exact Or.inr (Report.handledBy_afterTakeDown hhandler)
    | false =>
      rw [hhandler] at htouches
      exact Or.inl (List.mem_filter.mpr ⟨List.mem_cons_of_mem _ List.mem_cons_self, htouches⟩)
  | _ => exact Or.inr rfl

end Action

/-! ## Confinement -/

namespace Listing

variable {α : Type} [Entity α] [Fielded α] {l : Listing α} {target : Uuid}
  {written : List Data.Field} {d d' : Data} {result : Affected}

/-- Of all that the data has, only written fields of the first thing with the identifier have
changed, and the result is that thing as it is stored now. -/
def Rewritten (l : Listing α) (target : Uuid) (written : List Data.Field) (d : Data)
    (result : Affected) (d' : Data) : Prop :=
  ∃ a b, l.Edited target a b d d' ∧ SameBut written a b ∧
    Entity.find? target (l.items d') = some b ∧ result = l.affected b

theorem Turned.rewritten {before : α → Prop} {after : α → α}
    (h : l.Turned target before after d result d') (hid : ∀ a, Entity.id (after a) = Entity.id a)
    (hsame : ∀ a, Entity.find? target (l.items d) = some a → SameBut written a (after a)) :
    l.Rewritten target written d result d' := by
  obtain ⟨a, -, hedited, rfl⟩ := h
  obtain ⟨pre, post, hitems, hpre, ha, rfl⟩ := hedited
  have hfind : Entity.find? target (l.items d) = some a := by
    rw [hitems]
    exact Edit.find?_eq_first hpre ha
  refine ⟨a, after a, ⟨pre, post, hitems, hpre, ha, rfl⟩, hsame a hfind, ?_, rfl⟩
  rw [l.items_put]
  exact Edit.find?_eq_first hpre ((hid a).trans ha)

/-- Everything is in its place still, and is the same but for what was written. -/
theorem Rewritten.forall₂ (h : l.Rewritten target written d result d') :
    List.Forall₂ (SameBut written) (l.items d) (l.items d') := by
  obtain ⟨a, b, hedited, hab, -⟩ := h
  exact hedited.forall₂ SameBut.refl hab

end Listing

namespace Action

/-- All that the action may have changed from `d` to `d'` are the fields that it writes, of the one
thing that it is about; and the result is that thing as it is stored in `d'`, or in `d` if it was
removed. -/
def Confined (a : Action) (d : Data) (result : Affected) (d' : Data) : Prop :=
  match a with
  | banMember id _ | unbanMember id | verifyMember id | editMember id _ =>
    Listing.members.Rewritten id (a.writes d) d result d'
  | deleteMember id => ∃ m, Listing.members.Removed id m d d' ∧ result = .member m
  | resolveReport id _ | dismissReport id _ | removeContent id =>
    Listing.reports.Rewritten id (a.writes d) d result d'
  | refundPayment id _ => Listing.payments.Rewritten id (a.writes d) d result d'
  | pauseCampaign id | resumeCampaign id =>
    Listing.campaigns.Rewritten id (a.writes d) d result d'
  | assignRole id _ => Listing.team.Rewritten id (a.writes d) d result d'
  | updateSettings _ =>
    d' = { d with settings := d'.settings } ∧ SameBut (a.writes d) d.settings d'.settings ∧
      result = .settings d'.settings

/-- **An action that is performed writes nothing but its fields.** -/
theorem Effect.confined {actor : Uuid} {now : Instant} {a : Action} {d d' : Data}
    {result : Affected} (h : a.Effect actor now d result d') : a.Confined d result d' := by
  cases a with
  | banMember id reason =>
    exact Listing.Turned.rewritten h (fun _ => rfl) fun m _ => m.sameBut_afterBan reason
  | unbanMember id =>
    exact Listing.Turned.rewritten h (fun _ => rfl) fun m _ => m.sameBut_afterUnban
  | verifyMember id =>
    exact Listing.Turned.rewritten h (fun _ => rfl) fun m _ => m.sameBut_afterVerify
  | editMember id u =>
    exact Listing.Turned.rewritten h.2 (fun _ => rfl) fun m _ => sameBut_editMember d id u m
  | deleteMember id => exact h
  | resolveReport id note =>
    exact Listing.Turned.rewritten h (fun _ => rfl) fun r _ => r.sameBut_afterClose _ actor note
  | dismissReport id note =>
    exact Listing.Turned.rewritten h (fun _ => rfl) fun r _ => r.sameBut_afterClose _ actor note
  | removeContent id =>
    exact Listing.Turned.rewritten h (fun _ => rfl) fun r hr => sameBut_removeContent hr actor
  | refundPayment id reason =>
    exact Listing.Turned.rewritten h (fun _ => rfl) fun p _ => p.sameBut_afterRefund now reason
  | pauseCampaign id =>
    exact Listing.Turned.rewritten h (fun _ => rfl) fun c _ => c.sameBut_afterTurn .paused
  | resumeCampaign id =>
    exact Listing.Turned.rewritten h (fun _ => rfl) fun c _ => c.sameBut_afterTurn .active
  | assignRole id role =>
    exact Listing.Turned.rewritten h (fun _ => rfl) fun t _ => t.sameBut_afterAssign role
  | updateSettings u =>
    obtain ⟨-, -, rfl, rfl⟩ := h
    exact ⟨rfl, sameBut_updateSettings d u d.settings, rfl⟩

end Action

end AdminConsole
