import AdminConsole.Proofs.Action.Frame
import AdminConsole.Proofs.Text.Trim
import AdminConsole.Proofs.Trail.Course

/-! # Values within their bounds

Profiles and settings are edited by partial updates.  An update is checked as
it comes in, and only in the fields it mentions; what is stored of a text is
the trimmed text.  So there are two things to show of every field: that the
check of the raw value says enough about the stored one, and that a field which
is not mentioned was within its bounds before.
-/
namespace AdminConsole

/-! ## Bounds -/

/-- A text is trimmed and may be an email address. -/
structure IsEmail (s : String) : Prop where
  trimmed : Text.Trimmed s
  accepted : isPlausibleEmail s = true

/-- A name of one to fifty characters, an email address and a city, all of them trimmed. -/
structure Member.InBounds (m : Member) : Prop where
  named : Text.Trimmed m.displayName
  name_length : 1 ≤ m.displayName.length ∧ m.displayName.length ≤ 50
  email : IsEmail m.email
  city : Text.Trimmed m.city
  city_ne : m.city ≠ ""

/-- A lowest age of an adult, limits that are no zeros, and an email address. -/
structure Settings.InBounds (s : Settings) : Prop where
  age : 18 ≤ s.minimumAge ∧ s.minimumAge ≤ 99
  likes : 0 < s.maxDailyLikes
  flags : 0 < s.autoFlagThreshold
  email : IsEmail s.supportEmail

/-- The settings and all members are within their bounds. -/
structure Data.InBounds (d : Data) : Prop where
  settings : d.settings.InBounds
  members : ∀ m ∈ d.members, m.InBounds

instance (s : String) : Decidable (IsEmail s) :=
  decidable_of_iff (Text.Trimmed s ∧ isPlausibleEmail s = true)
    ⟨fun h => ⟨h.1, h.2⟩, fun h => ⟨h.trimmed, h.accepted⟩⟩

instance (m : Member) : Decidable m.InBounds :=
  decidable_of_iff (Text.Trimmed m.displayName ∧
      (1 ≤ m.displayName.length ∧ m.displayName.length ≤ 50) ∧ IsEmail m.email ∧
      Text.Trimmed m.city ∧ m.city ≠ "")
    ⟨fun h => ⟨h.1, h.2.1, h.2.2.1, h.2.2.2.1, h.2.2.2.2⟩,
      fun h => ⟨h.named, h.name_length, h.email, h.city, h.city_ne⟩⟩

instance (s : Settings) : Decidable s.InBounds :=
  decidable_of_iff ((18 ≤ s.minimumAge ∧ s.minimumAge ≤ 99) ∧ 0 < s.maxDailyLikes ∧
      0 < s.autoFlagThreshold ∧ IsEmail s.supportEmail)
    ⟨fun h => ⟨h.1, h.2.1, h.2.2.1, h.2.2.2⟩, fun h => ⟨h.age, h.likes, h.flags, h.email⟩⟩

/-- The console starts with data within its bounds. -/
theorem Data.inBounds_sample : Sample.data.InBounds := by
  constructor <;> decide +kernel

/-- What is stored of a plausible text is an email address. -/
theorem isEmail_trim {s : String} (h : isPlausibleEmail s = true) : IsEmail (Text.trim s) where
  trimmed := Text.trimmed_trim s
  accepted := (isPlausibleEmail_trim s).trans h

/-- A field after a partial update: every value that is mentioned is good, and the value before was
good. -/
theorem getD_of_forall {α : Type} {P : α → Prop} {value : Option α} {old : α}
    (hvalue : ∀ v ∈ value, P v) (hold : P old) : P (value.getD old) := by
  cases value with
  | none => exact hold
  | some v => exact hvalue v rfl

/-- As `getD_of_forall`, for a field that stores the trimmed text. -/
theorem getD_trim_of_forall {P : String → Prop} {value : Option String} {old : String}
    (hvalue : ∀ v ∈ value, P (Text.trim v)) (hold : P old) :
    P ((value.map Text.trim).getD old) := by
  refine getD_of_forall (fun s hs => ?_) hold
  obtain ⟨v, hv, rfl⟩ := Option.mem_map.mp hs
  exact hvalue v hv

/-! ## What the checks let pass -/

/-- A check that finds nothing in a mentioned value. -/
theorem forall_mem_of_any_not {α : Type} {p : α → Bool} {value : Option α}
    (h : ¬ (value.any fun v => !p v) = true) : ∀ v ∈ value, p v = true := by
  intro v hv
  rw [Option.mem_def.mp hv] at h
  simpa using h

/-- What an update without a fault mentions. -/
structure MemberUpdate.Sound (u : MemberUpdate) : Prop where
  displayName : ∀ s ∈ u.displayName, isDisplayName s = true
  email : ∀ s ∈ u.email, isPlausibleEmail s = true
  city : ∀ s ∈ u.city, ¬ Text.IsBlankText s

theorem MemberUpdate.sound_of_fault? {u : MemberUpdate} (h : u.fault? = none) : u.Sound := by
  unfold fault? at h
  split at h
  · cases h
  split at h
  · cases h
  next hname =>
  split at h
  · cases h
  next hemail =>
  split at h
  · cases h
  next hcity =>
  refine ⟨forall_mem_of_any_not hname, forall_mem_of_any_not hemail, fun s hs => ?_⟩
  rw [Option.mem_def.mp hs, Option.any_some, decide_eq_true_eq] at hcity
  exact hcity

/-- What an update without a fault mentions. -/
structure SettingsUpdate.Sound (u : SettingsUpdate) : Prop where
  age : ∀ age ∈ u.minimumAge, isMinimumAge age = true
  likes : u.maxDailyLikes ≠ some 0
  flags : u.autoFlagThreshold ≠ some 0
  email : ∀ s ∈ u.supportEmail, isPlausibleEmail s = true

theorem SettingsUpdate.sound_of_fault? {u : SettingsUpdate} (h : u.fault? = none) : u.Sound := by
  unfold fault? at h
  split at h
  · cases h
  next hage =>
  split at h
  · cases h
  next hlikes =>
  split at h
  · cases h
  next hflags =>
  split at h
  · cases h
  next hemail =>
  exact ⟨forall_mem_of_any_not hage, hlikes, hflags, forall_mem_of_any_not hemail⟩

/-! ## What an update makes of a thing within its bounds -/

/-- Only the profile of a member has bounds. -/
theorem Member.InBounds.of_profile {m m' : Member} (h : m.InBounds)
    (hname : m'.displayName = m.displayName) (hemail : m'.email = m.email)
    (hcity : m'.city = m.city) : m'.InBounds := by
  obtain ⟨h₁, h₂, h₃, h₄, h₅⟩ := h
  rw [← hname] at h₁ h₂
  rw [← hemail] at h₃
  rw [← hcity] at h₄ h₅
  exact ⟨h₁, h₂, h₃, h₄, h₅⟩

/-- A sound update leaves a member within its bounds. -/
theorem Member.InBounds.applyTo {m : Member} {u : MemberUpdate} (hm : m.InBounds) (hu : u.Sound) :
    (u.applyTo m).InBounds where
  named := getD_trim_of_forall (fun s _ => Text.trimmed_trim s) hm.named
  name_length := by
    refine getD_trim_of_forall (P := fun s => 1 ≤ s.length ∧ s.length ≤ 50) (fun s hs => ?_)
      hm.name_length
    have hname := hu.displayName s hs
    rw [Text.length_trim]
    simpa [MemberUpdate.isDisplayName] using hname
  email := getD_trim_of_forall (fun s hs => isEmail_trim (hu.email s hs)) hm.email
  city := getD_trim_of_forall (fun s _ => Text.trimmed_trim s) hm.city
  city_ne := getD_trim_of_forall (P := (· ≠ "")) (fun s hs => Text.trim_ne_empty (hu.city s hs))
    hm.city_ne

/-- A limit that is not set to zero is not zero. -/
theorem getD_pos {value : Option UInt32} {old : UInt32} (hvalue : value ≠ some 0)
    (hold : 0 < old) : 0 < value.getD old := by
  refine getD_of_forall (P := (0 < ·)) (fun v hv => ?_) hold
  rw [UInt32.pos_iff_ne_zero]
  rintro rfl
  exact hvalue hv

/-- A sound update leaves settings within their bounds. -/
theorem Settings.InBounds.applyTo {s : Settings} {u : SettingsUpdate} (hs : s.InBounds)
    (hu : u.Sound) : (u.applyTo s).InBounds where
  age := by
    refine getD_of_forall (P := fun age : UInt8 => 18 ≤ age ∧ age ≤ 99) (fun age hage => ?_) hs.age
    simpa [SettingsUpdate.isMinimumAge] using hu.age age hage
  likes := getD_pos hu.likes hs.likes
  flags := getD_pos hu.flags hs.flags
  email := getD_trim_of_forall (fun s hs => isEmail_trim (hu.email s hs)) hs.email

/-! ## Performed actions -/

namespace Action.Effect

variable {actor : Uuid} {now : Instant} {a : Action} {d d' : Data} {result : Affected}

/-- Of the actions on members only the edit of a profile touches what has bounds. -/
theorem members_inBounds (h : a.Effect actor now d result d') (hd : ∀ m ∈ d.members, m.InBounds) :
    ∀ m ∈ d'.members, m.InBounds := by
  by_cases hplace : a.kind.place = .members
  · cases a with
    | banMember id reason =>
      exact Listing.Turned.forall_mem h (fun m _ hm => hm.of_profile rfl rfl rfl) hd
    | unbanMember id =>
      exact Listing.Turned.forall_mem h (fun m _ hm => hm.of_profile rfl rfl rfl) hd
    | verifyMember id =>
      exact Listing.Turned.forall_mem h (fun m _ hm => hm.of_profile rfl rfl rfl) hd
    | editMember id u =>
      obtain ⟨hfault, hturned⟩ := h
      exact hturned.forall_mem (fun m _ hm => hm.applyTo (u.sound_of_fault? hfault)) hd
    | deleteMember id =>
      obtain ⟨m, hm, -⟩ := h
      exact hm.forall_mem hd
    | _ => cases hplace
  · rw [h.beside.members hplace]
    exact hd

theorem settings_inBounds (h : a.Effect actor now d result d') (hd : d.settings.InBounds) :
    d'.settings.InBounds := by
  by_cases hplace : a.kind.place = .settings
  · cases a with
    | updateSettings u =>
      obtain ⟨hfault, -, -, rfl⟩ := h
      exact hd.applyTo (u.sound_of_fault? hfault)
    | _ => cases hplace
  · rw [h.beside.settings hplace]
    exact hd

/-- A performed action leaves data within its bounds. -/
theorem inBounds (h : a.Effect actor now d result d') (hd : d.InBounds) : d'.InBounds where
  settings := h.settings_inBounds hd.settings
  members := h.members_inBounds hd.members

end Action.Effect

/-- Data within its bounds stays there. -/
theorem Data.Leads.inBounds {d e : Data} (h : d.Leads e) (hd : d.InBounds) : e.InBounds :=
  h.keeps (fun heffect hbounds => heffect.inBounds hbounds) hd

namespace Console

/-- **Every stored value is within its bounds.**  The console starts with such data.  From there,
or from any other such data, however calls interleave and whichever orders are obeyed, the settings
and every member are within their bounds. -/
theorem values_stay_in_bounds :
    Sample.data.InBounds ∧ ∀ start : Console, start.data.InBounds →
      (∀ moves, ((Floor.opened start).run moves).console.data.InBounds) ∧
      ∀ orders, (start.obeyAll orders).data.InBounds := by
  refine ⟨Data.inBounds_sample, fun start hstart => ⟨fun moves => ?_, fun orders => ?_⟩⟩
  · exact (Floor.leads_run start moves).inBounds hstart
  · exact (leads_obeyAll start orders).inBounds hstart

/-- A profile whose new values stand between blanks, one with too long a name, a city of blanks
only, and settings with an age at the lower bound and one below it. -/
def sampleUpdates : List Order :=
  let order (a : Action) : Order :=
    { actor := { id := Sample.operatorId 1, role := .owner }
      origin := { ip := "127.0.0.1", device := "Firefox" }
      occasion := { now := Sample.daysAgo 0, recordId := .ofNat 1 }
      action := a }
  let settings (age : UInt8) : SettingsUpdate :=
    { maintenanceMode := none, newSignupsEnabled := none, minimumAge := some age
      maxDailyLikes := some 1, autoFlagThreshold := none, supportEmail := some "\thelp@a.b\n" }
  [order (.editMember (Sample.memberId 1)
      { displayName := some " \u00a0Ava M. ", email := some " ava@b.c ", city := some "\tRome" }),
    order (.editMember (Sample.memberId 2)
      { displayName := some (String.ofList (List.replicate 51 'n')), email := none, city := none }),
    order (.editMember (Sample.memberId 3)
      { displayName := none, email := none, city := some "\u2003" }),
    order (.updateSettings (settings 18)), order (.updateSettings (settings 17))]

theorem values_stay_in_bounds_sampleUpdates :
    sample.data.InBounds ∧ (sample.trail sampleUpdates).length = 2 ∧
      (sample.obeyAll sampleUpdates).data.InBounds :=
  ⟨Data.inBounds_sample, by decide,
    (values_stay_in_bounds.2 sample values_stay_in_bounds.1).2 sampleUpdates⟩

end Console

end AdminConsole
