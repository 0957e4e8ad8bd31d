import AdminConsole.Proofs.Trail.Course

/-! # Actions that change nothing

Most actions look at the thing that they reach and are refused where they would
leave it as it is: whoever is banned cannot be banned, and what is paused cannot
be paused.  The two partial updates do not look.  They ask whether a field is
mentioned, and not whether its value is another one; so an update that repeats
what is there is performed and recorded like any other, although the data is
the same afterwards (`Action.Idle`).

For the same reason the record of an update of settings lists the keys that are
mentioned.  Those whose values changed are among them, but need not be all of
them (`Console.recorded_unchanged_iff_idle`).
-/
namespace AdminConsole

/-! ## Fields that keep their values -/

namespace Settings

/-- The settings have two values under the key. -/
def differs (s s' : Settings) : SettingsKey → Bool
  | .maintenanceMode => s'.maintenanceMode != s.maintenanceMode
  | .newSignupsEnabled => s'.newSignupsEnabled != s.newSignupsEnabled
  | .minimumAge => s'.minimumAge != s.minimumAge
  | .maxDailyLikes => s'.maxDailyLikes != s.maxDailyLikes
  | .autoFlagThreshold => s'.autoFlagThreshold != s.autoFlagThreshold
  | .supportEmail => s'.supportEmail != s.supportEmail

/-- The keys whose values differ, in order. -/
def changedKeys (s s' : Settings) : List SettingsKey := SettingsKey.all.filter (differs s s')

/-- Settings are their values. -/
theorem eq_iff_differs {s s' : Settings} : s' = s ↔ ∀ key, differs s s' key = false := by
  constructor
  · rintro rfl key
    cases key <;> exact bne_self_eq_false _
  · intro h
    have h₁ := h .maintenanceMode
    have h₂ := h .newSignupsEnabled
    have h₃ := h .minimumAge
    have h₄ := h .maxDailyLikes
    have h₅ := h .autoFlagThreshold
    have h₆ := h .supportEmail
    simp only [differs, bne_eq_false_iff_eq] at h₁ h₂ h₃ h₄ h₅ h₆
    cases s
    cases s'
    simp only [Settings.mk.injEq]
    exact ⟨h₁, h₂, h₃, h₄, h₅, h₆⟩

end Settings

namespace SettingsUpdate

/-- The setting of a key is mentioned with a value that it does not have. -/
def alters (u : SettingsUpdate) (s : Settings) : SettingsKey → Bool
  | .maintenanceMode => u.maintenanceMode.any (· != s.maintenanceMode)
  | .newSignupsEnabled => u.newSignupsEnabled.any (· != s.newSignupsEnabled)
  | .minimumAge => u.minimumAge.any (· != s.minimumAge)
  | .maxDailyLikes => u.maxDailyLikes.any (· != s.maxDailyLikes)
  | .autoFlagThreshold => u.autoFlagThreshold.any (· != s.autoFlagThreshold)
  | .supportEmail => u.supportEmail.any fun v => Text.trim v != s.supportEmail

variable {u : SettingsUpdate} {s : Settings} {key : SettingsKey}

theorem mentions_of_alters (h : u.alters s key = true) : u.mentions key = true := by
  cases key <;> exact Option.isSome_of_any h

/-- A field after a partial update differs just if another value is mentioned. -/
theorem getD_bne {α : Type} [BEq α] [LawfulBEq α] (value : Option α) (old : α) :
    (value.getD old != old) = value.any (· != old) := by
  cases value with
  | none => exact bne_self_eq_false old
  | some v => rfl

theorem differs_applyTo (u : SettingsUpdate) (s : Settings) (key : SettingsKey) :
    s.differs (u.applyTo s) key = u.alters s key := by
  cases key with
  | supportEmail =>
    exact (getD_bne (u.supportEmail.map Text.trim) s.supportEmail).trans Option.any_map
  | _ => exact getD_bne _ _

/-- The keys whose values an update changes are among those that it mentions. -/
theorem changedKeys_applyTo (u : SettingsUpdate) (s : Settings) :
    s.changedKeys (u.applyTo s) = u.keys.filter (u.alters s) := by
  rw [Settings.changedKeys, keys, List.filter_filter]
  refine List.filter_congr fun key _ => ?_
  rw [differs_applyTo]
  cases halters : u.alters s key with
  | true => rw [mentions_of_alters halters, Bool.and_self]
  | false => rw [Bool.false_and]

theorem applyTo_eq_self_iff : u.applyTo s = s ↔ ∀ key, u.alters s key = false := by
  rw [Settings.eq_iff_differs]
  exact forall_congr' fun key => by rw [differs_applyTo]

end SettingsUpdate

namespace MemberUpdate

/-- All that the update mentions is what the member has. -/
structure Repeats (u : MemberUpdate) (m : Member) : Prop where
  displayName : ∀ s ∈ u.displayName, Text.trim s = m.displayName
  email : ∀ s ∈ u.email, Text.trim s = m.email
  city : ∀ s ∈ u.city, Text.trim s = m.city

theorem getD_trim_eq_iff {value : Option String} {old : String} :
    (value.map Text.trim).getD old = old ↔ ∀ s ∈ value, Text.trim s = old := by
  cases value <;> simp

theorem applyTo_eq_self_iff {u : MemberUpdate} {m : Member} : u.applyTo m = m ↔ u.Repeats m := by
  constructor
  · intro h
    exact ⟨getD_trim_eq_iff.mp (congrArg Member.displayName h),
      getD_trim_eq_iff.mp (congrArg Member.email h), getD_trim_eq_iff.mp (congrArg Member.city h)⟩
  · intro h
    rw [applyTo, getD_trim_eq_iff.mpr h.displayName, getD_trim_eq_iff.mpr h.email,
      getD_trim_eq_iff.mpr h.city]

end MemberUpdate

/-! ## Idle actions -/

/-- All that the action writes is there already.  Only the partial updates do not mind. -/
def Action.Idle (d : Data) : Action → Prop
  | editMember id u => ∃ m, Entity.find? id d.members = some m ∧ u.Repeats m
  | updateSettings u => ∀ key, u.alters d.settings key = false
  | _ => False

namespace Listing

variable {α : Type} [Entity α] {l : Listing α} {target : Uuid} {before : α → Prop} {after : α → α}
  {a b : α} {d d' : Data} {result : Affected}

theorem Edited.eq_iff (h : l.Edited target a b d d') : d' = d ↔ b = a := by
  obtain ⟨pre, post, hitems, -, -, rfl⟩ := h
  constructor
  · intro heq
    have hsame : pre ++ b :: post = pre ++ a :: post := by
      rw [← hitems, ← l.items_put (pre ++ b :: post) d, heq]
    exact (List.cons.inj (List.append_cancel_left hsame)).1
  · rintro rfl
    rw [← hitems, l.put_items]

/-- An action that changes what it reaches changes the data. -/
theorem Turned.ne (h : l.Turned target before after d result d')
    (hafter : ∀ a, before a → after a ≠ a) : d' ≠ d := by
  obtain ⟨a, ha, hedited, -⟩ := h
  exact fun heq => hafter a ha (hedited.eq_iff.mp heq)

theorem Removed.ne (h : l.Removed target a d d') : d' ≠ d := by
  obtain ⟨pre, post, hitems, -, -, rfl⟩ := h
  intro heq
  have hsame : pre ++ post = pre ++ a :: post := by
    rw [← hitems, ← l.items_put (pre ++ post) d, heq]
  exact List.cons_ne_self a post (List.append_cancel_left hsame).symm

end Listing

/-- **A performed action changes the data unless it is idle.** -/
theorem Action.Effect.eq_iff_idle {actor : Uuid} {now : Instant} {a : Action} {d d' : Data}
    {result : Affected} (h : a.Effect actor now d result d') : d' = d ↔ a.Idle d := by
  cases a with
  | editMember id u =>
    obtain ⟨-, m, -, hedited, -⟩ := h
    have hfind : Entity.find? id d.members = some m := by
      obtain ⟨pre, post, hitems, hpre, hid, -⟩ := hedited
      have hmembers : d.members = pre ++ m :: post := hitems
      rw [hmembers]
      exact Edit.find?_eq_first hpre hid
    rw [hedited.eq_iff, MemberUpdate.applyTo_eq_self_iff]
    constructor
    · exact fun hrepeats => ⟨m, hfind, hrepeats⟩
    · rintro ⟨m', hm', hrepeats⟩
      obtain rfl := Option.some.inj (hfind.symm.trans hm')
      exact hrepeats
  | updateSettings u =>
    obtain ⟨-, -, -, rfl⟩ := h
    show _ ↔ ∀ key, u.alters d.settings key = false
    rw [← SettingsUpdate.applyTo_eq_self_iff]
    constructor
    · exact fun heq => congrArg Data.settings heq
    · intro heq
      rw [heq]
  | deleteMember id =>
    obtain ⟨m, hm, -⟩ := h
    exact iff_of_false hm.ne not_false
  -- The others ask that the field which they write have another value.
  | banMember id reason =>
    exact iff_of_false (h.ne fun m hm he => hm (congrArg Member.status he).symm) not_false
  | unbanMember id =>
    refine iff_of_false (h.ne fun m hm he => ?_) not_false
    cases (congrArg Member.status he).trans hm
  | verifyMember id =>
    refine iff_of_false (h.ne fun m hm he => ?_) not_false
    cases (congrArg Member.verified he).trans hm
  | resolveReport id note =>
    refine iff_of_false (h.ne fun r hr he => ?_) not_false
    cases (congrArg Report.status he).trans hr
  | dismissReport id note =>
    refine iff_of_false (h.ne fun r hr he => ?_) not_false
    cases (congrArg Report.status he).trans hr
  | removeContent id =>
    refine iff_of_false (h.ne fun r hr he => ?_) not_false
    cases (congrArg Report.contentRemoved he).trans hr
  | refundPayment id reason =>
    exact iff_of_false (h.ne fun p hp he => hp (congrArg Payment.status he).symm) not_false
  | pauseCampaign id =>
    exact iff_of_false (h.ne fun c hc he => hc (congrArg Campaign.status he).symm) not_false
  | resumeCampaign id =>
    exact iff_of_false (h.ne fun c hc he => hc (congrArg Campaign.status he).symm) not_false
  | assignRole id role =>
    exact iff_of_false (h.ne fun t ht he => ht.1 (congrArg TeamMember.role he).symm) not_false

namespace Console

/-- **What is recorded has changed the data, unless it is idle.**  An order of which a record is
submitted leaves the data as it was just if it is an update that repeats what is there.  The record
of an update of settings lists all keys that it mentions, in order, and the keys whose values
changed are those of them whose value is another one. -/
theorem recorded_unchanged_iff_idle (c : Console) (order : Order) {record : AuditRecord}
    (h : c.outbox.submitted? (c.obey order).outbox = some record) :
    let d := c.data
    let d' := (c.obey order).data
    (d' = d ↔ order.action.Idle d) ∧
    ∀ u, order.action = .updateSettings u →
      record.target = some (",".intercalate (u.keys.map SettingsKey.name)) ∧
      d.settings.changedKeys d'.settings = u.keys.filter (u.alters d.settings) := by
  rcases obey_cases c order with ⟨-, hnone⟩ | ⟨result, r, heffect, -, hsome, hdeed⟩
  · cases hnone.symm.trans h
  · obtain rfl := Option.some.inj (hsome.symm.trans h)
    refine ⟨heffect.eq_iff_idle, fun u hu => ?_⟩
    rw [hu] at heffect hdeed
    obtain ⟨-, -, -, hd'⟩ := heffect
    refine ⟨congrArg Deed.target hdeed, ?_⟩
    rw [hd']
    exact u.changedKeys_applyTo c.data.settings

/-- Maintenance is switched on, and the lowest age is set to what it is. -/
def sampleSwitch : Order :=
  sampleOrder 1 (.updateSettings {
    maintenanceMode := some true
    newSignupsEnabled := none
    minimumAge := some 18
    maxDailyLikes := none
    autoFlagThreshold := none
    supportEmail := none })

/-- A member is given the name that it has. -/
def sampleRenaming : Order :=
  sampleOrder 1 (.editMember (Sample.memberId 3) {
    displayName := some " Mia Johnson "
    email := none
    city := none })

theorem recorded_unchanged_iff_idle_sampleSwitch :
    ∃ record, sample.outbox.submitted? (sample.obey sampleSwitch).outbox = some record ∧
      record.target = some "maintenance_mode,minimum_age" ∧
      ((sample.obey sampleSwitch).data = sample.data ↔ sampleSwitch.action.Idle sample.data) := by
  have hrecorded : (sample.outbox.submitted? (sample.obey sampleSwitch).outbox).isSome := by decide
  obtain ⟨record, hrecord⟩ := Option.isSome_iff_exists.mp hrecorded
  obtain ⟨hidle, hkeys⟩ := recorded_unchanged_iff_idle sample sampleSwitch hrecord
  exact ⟨record, hrecord, (hkeys _ rfl).1, hidle⟩

/-- A record is submitted although nothing changed, and one that lists a key whose value is the
same. -/
theorem recorded_although_idle :
    ((sample.outbox.submitted? (sample.obey sampleRenaming).outbox).isSome ∧
      (sample.obey sampleRenaming).data = sample.data) ∧
    (sample.outbox.submitted? (sample.obey sampleSwitch).outbox).map AuditRecord.target =
        some (some "maintenance_mode,minimum_age") ∧
      sample.data.settings.changedKeys (sample.obey sampleSwitch).data.settings =
        [.maintenanceMode] := by
  refine ⟨⟨?_, ?_⟩, ?_, ?_⟩
  · decide
  · decide +kernel
  · decide
  · decide

end Console

end AdminConsole
