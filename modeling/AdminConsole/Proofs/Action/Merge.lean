import AdminConsole.Proofs.Action.Fields
import AdminConsole.Proofs.Trail.Bounds

/-! # Updates one after the other

Two partial updates that come one after the other can be merged into one: of
what both mention the later value stands (`SettingsUpdate.followedBy`,
`MemberUpdate.followedBy`).  The merged update does what the two do
(`applyTo_followedBy`), since a field that is not mentioned is left alone, and
it is accepted when they are, since every value that it mentions is mentioned by
one of them and was looked through there.
-/
namespace AdminConsole

/-! ## Values that may be mentioned -/

section Values

variable {α : Type} {u v : Option α}

/-- The later value of two, trimmed or not, is written over the earlier one. -/
theorem getD_map_or (g : α → α) (old : α) :
    ((v.or u).map g).getD old = (v.map g).getD ((u.map g).getD old) := by
  rw [Option.map_or, Option.getD_or]

theorem forall_mem_or {P : α → Prop} (hu : ∀ a ∈ u, P a) (hv : ∀ a ∈ v, P a) :
    ∀ a ∈ v.or u, P a := by
  intro a ha
  rcases Option.or_eq_some_iff.mp ha with h | ⟨-, h⟩
  · exact hv a h
  · exact hu a h

theorem not_any_of_forall_mem {p : α → Bool} (h : ∀ a ∈ u, ¬ p a = true) :
    ¬ u.any p = true := by
  cases u with
  | none => exact Bool.false_ne_true
  | some a => exact h a rfl

/-- A check finds nothing where every value that is mentioned is good. -/
theorem not_any_not_of_forall_mem {p : α → Bool} (h : ∀ a ∈ u, p a = true) :
    ¬ (u.any fun a => !p a) = true :=
  not_any_of_forall_mem fun a ha => by
    rw [h a ha]
    exact Bool.false_ne_true

end Values

/-! ## Settings -/

namespace SettingsUpdate

/-- Nothing is mentioned. -/
def nothing : SettingsUpdate where
  maintenanceMode := none
  newSignupsEnabled := none
  minimumAge := none
  maxDailyLikes := none
  autoFlagThreshold := none
  supportEmail := none

/-- Both updates in one: what `v` mentions is as in `v`, and the rest as in `u`. -/
def followedBy (u v : SettingsUpdate) : SettingsUpdate where
  maintenanceMode := v.maintenanceMode.or u.maintenanceMode
  newSignupsEnabled := v.newSignupsEnabled.or u.newSignupsEnabled
  minimumAge := v.minimumAge.or u.minimumAge
  maxDailyLikes := v.maxDailyLikes.or u.maxDailyLikes
  autoFlagThreshold := v.autoFlagThreshold.or u.autoFlagThreshold
  supportEmail := v.supportEmail.or u.supportEmail

variable {u v : SettingsUpdate}

theorem applyTo_followedBy (u v : SettingsUpdate) (s : Settings) :
    (u.followedBy v).applyTo s = v.applyTo (u.applyTo s) := by
  simp only [followedBy, applyTo, Option.getD_or, getD_map_or]

theorem mentions_followedBy (u v : SettingsUpdate) (key : SettingsKey) :
    (u.followedBy v).mentions key = (v.mentions key || u.mentions key) := by
  cases key <;> exact Option.isSome_or

theorem mem_keys {key : SettingsKey} : key ∈ u.keys ↔ u.mentions key = true := by
  rw [keys, List.mem_filter, and_iff_right key.mem_all]

theorem mem_keys_followedBy {key : SettingsKey} :
    key ∈ (u.followedBy v).keys ↔ key ∈ u.keys ∨ key ∈ v.keys := by
  rw [mem_keys, mem_keys, mem_keys, mentions_followedBy, Bool.or_eq_true, or_comm]

/-- The keys of both updates, each once and in the order of all keys. -/
theorem keys_followedBy (u v : SettingsUpdate) : (u.followedBy v).keys =
    SettingsKey.all.filter fun key => decide (key ∈ u.keys ∨ key ∈ v.keys) := by
  refine List.filter_congr fun key _ => ?_
  rw [Bool.eq_iff_iff, decide_eq_true_eq, ← mem_keys_followedBy, mem_keys]

theorem Sound.followedBy (hu : u.Sound) (hv : v.Sound) : (u.followedBy v).Sound where
  age := forall_mem_or hu.age hv.age
  likes h := by
    rcases Option.or_eq_some_iff.mp h with h | ⟨-, h⟩
    · exact hv.likes h
    · exact hu.likes h
  flags h := by
    rcases Option.or_eq_some_iff.mp h with h | ⟨-, h⟩
    · exact hv.flags h
    · exact hu.flags h
  email := forall_mem_or hu.email hv.email

/-- There is nothing else that an update could be refused for. -/
theorem Sound.fault?_eq_none (h : u.Sound) : u.fault? = none := by
  rw [fault?, if_neg (not_any_not_of_forall_mem h.age), if_neg h.likes, if_neg h.flags,
    if_neg (not_any_not_of_forall_mem h.email)]

/-- Two updates that are accepted one after the other are accepted as one. -/
theorem write_followedBy {s s₁ s₂ : Settings} {keys₁ keys₂ : List SettingsKey}
    (hu : u.write.exec s = (.ok keys₁, s₁)) (hv : v.write.exec s₁ = (.ok keys₂, s₂)) :
    (u.followedBy v).write.exec s =
      (.ok (SettingsKey.all.filter fun key => decide (key ∈ keys₁ ∨ key ∈ keys₂)), s₂) := by
  obtain ⟨hfault₁, -, rfl, rfl⟩ := write_ok hu
  obtain ⟨hfault₂, hkeys₂, rfl, rfl⟩ := write_ok hv
  have hsound := (sound_of_fault? hfault₁).followedBy (sound_of_fault? hfault₂)
  have hkeys : (u.followedBy v).keys ≠ [] := by
    obtain ⟨key, hkey⟩ := List.exists_mem_of_ne_nil v.keys hkeys₂
    exact List.ne_nil_of_mem (mem_keys_followedBy.mpr (Or.inr hkey))
  rw [exec_write hsound.fault?_eq_none hkeys, keys_followedBy, applyTo_followedBy]

/-- An update that mentions nothing has no fault; it is refused in the end. -/
theorem write_nothing (s : Settings) : nothing.write.exec s = (.error .nothingToUpdate, s) := rfl

end SettingsUpdate

/-! ## Members -/

namespace MemberUpdate

/-- Nothing is mentioned. -/
def nothing : MemberUpdate where
  displayName := none
  email := none
  city := none

/-- Both updates in one: what `v` mentions is as in `v`, and the rest as in `u`. -/
def followedBy (u v : MemberUpdate) : MemberUpdate where
  displayName := v.displayName.or u.displayName
  email := v.email.or u.email
  city := v.city.or u.city

variable {u v : MemberUpdate}

theorem applyTo_followedBy (u v : MemberUpdate) (m : Member) :
    (u.followedBy v).applyTo m = v.applyTo (u.applyTo m) := by
  simp only [followedBy, applyTo, getD_map_or]

theorem isEmpty_followedBy (u v : MemberUpdate) :
    (u.followedBy v).isEmpty = (v.isEmpty && u.isEmpty) := by
  simp only [followedBy, isEmpty, Option.isNone_or]
  ac_rfl

theorem Sound.followedBy (hu : u.Sound) (hv : v.Sound) : (u.followedBy v).Sound where
  displayName := forall_mem_or hu.displayName hv.displayName
  email := forall_mem_or hu.email hv.email
  city := forall_mem_or hu.city hv.city

/-- There is nothing else that an update which mentions something could be refused for. -/
theorem Sound.fault?_eq_none (h : u.Sound) (hne : ¬ u.isEmpty = true) : u.fault? = none := by
  have hcity : ∀ s ∈ u.city, ¬ decide (Text.IsBlankText s) = true := fun s hs => by
    rw [decide_eq_true_eq]
    exact h.city s hs
  rw [fault?, if_neg hne, if_neg (not_any_not_of_forall_mem h.displayName),
    if_neg (not_any_not_of_forall_mem h.email), if_neg (not_any_of_forall_mem hcity)]

theorem not_isEmpty_of_fault? (h : u.fault? = none) : ¬ u.isEmpty = true := by
  intro hempty
  rw [fault?, if_pos hempty] at h
  cases h

theorem fault?_followedBy (hu : u.fault? = none) (hv : v.fault? = none) :
    (u.followedBy v).fault? = none := by
  refine ((sound_of_fault? hu).followedBy (sound_of_fault? hv)).fault?_eq_none fun hempty => ?_
  rw [isEmpty_followedBy, Bool.and_eq_true] at hempty
  exact not_isEmpty_of_fault? hv hempty.1

end MemberUpdate

namespace Action

variable {id : Uuid} {u v : MemberUpdate} {actor : Uuid} {now : Instant} {d d₁ d₂ : Data}
  {p₁ p₂ : Performed}

theorem exec_editMember {pre post : List Member} {m : Member} (hfault : u.fault? = none)
    (hitems : d.members = pre ++ m :: post) (hpre : ∀ x ∈ pre, Entity.id x ≠ id)
    (hm : Entity.id m = id) :
    (runEditMember id u).exec d =
      (.ok { result := .member (u.applyTo m), target := id.text },
        { d with members := pre ++ u.applyTo m :: post }) := by
  rw [runEditMember, Edit.exec_bind, hfault, Edit.exec_refuseIf?_none]
  exact Listing.members.exec_edit_at hitems hpre hm (u.write_follows m)

/-- Two edits of a member that are performed one after the other can be performed as one. -/
theorem exec_editMember_followedBy (h₁ : (runEditMember id u).exec d = (.ok p₁, d₁))
    (h₂ : (runEditMember id v).exec d₁ = (.ok p₂, d₂)) :
    (runEditMember id (u.followedBy v)).exec d = (.ok p₂, d₂) := by
  obtain ⟨-, hfault₁, m, -, ⟨pre, post, hitems, hpre, hm, rfl⟩, -⟩ := runEditMember_ok h₁
  obtain ⟨-, hfault₂, -⟩ := runEditMember_ok h₂
  -- The member is still the first one with the identifier when the second update comes.
  have hsecond := exec_editMember (d := Listing.members.put (pre ++ u.applyTo m :: post) d)
    hfault₂ rfl hpre (m := u.applyTo m) hm
  have hmerged := exec_editMember (MemberUpdate.fault?_followedBy hfault₁ hfault₂) hitems hpre hm
  rw [MemberUpdate.applyTo_followedBy] at hmerged
  exact hmerged.trans (hsecond.symm.trans h₂)

/-- An update of a member that mentions nothing is refused before the member is looked up. -/
theorem exec_editMember_nothing (id : Uuid) (d : Data) :
    (runEditMember id .nothing).exec d = (.error .nothingToUpdate, d) := rfl

end Action

/-- The same order for another action. -/
def Order.asking (order : Order) (a : Action) : Order := { order with action := a }

namespace Console

variable {c : Console} {x y order : Order} {id : Uuid} {u v : MemberUpdate}
  {receipt receipt₁ receipt₂ : ActionReceipt}

/-- Two orders to edit a member that are carried out one after the other can be given as one. -/
theorem receipt?_followedBy
    (h₁ : c.receipt? (x.asking (.editMember id u)) = some receipt₁)
    (h₂ : (c.obey (x.asking (.editMember id u))).receipt? (y.asking (.editMember id v)) =
      some receipt₂) :
    c.receipt? (y.asking (.editMember id (u.followedBy v))) = some receipt₂ ∧
      (c.obey (y.asking (.editMember id (u.followedBy v)))).data =
        ((c.obey (x.asking (.editMember id u))).obey (y.asking (.editMember id v))).data := by
  obtain ⟨hp₁, done₁, hdone₁, -⟩ := receipt?_eq_some_iff.mp h₁
  obtain ⟨hp₂, done₂, hdone₂, rfl⟩ := receipt?_eq_some_iff.mp h₂
  have hmerged := Action.exec_editMember_followedBy
    (Prod.ext hdone₁ (data_obey_of_entitled hp₁).symm)
    (Prod.ext hdone₂ (data_obey_of_entitled hp₂).symm)
  have hp : (y.asking (.editMember id (u.followedBy v))).action.kind.permission ∈
      y.actor.role.grants := hp₂
  exact ⟨receipt?_eq_some_iff.mpr ⟨hp, done₂, congrArg Prod.fst hmerged, rfl⟩,
    (data_obey_of_entitled hp).trans (congrArg Prod.snd hmerged)⟩

theorem perform_editMember_nothing (origin : Origin) (occasion : Occasion) (c : Console)
    {actor : Actor} (hp : .editUsers ∈ actor.role.grants) :
    perform actor origin occasion (.editMember id .nothing) c = (.error .nothingToUpdate, c) := by
  have hrefused := Action.exec_editMember_nothing id c.data
  rcases perform_cases actor origin occasion (.editMember id .nothing) c with
    ⟨hp', -⟩ | ⟨-, r, hrun, h⟩ | ⟨-, done, data, hrun, -⟩
  · exact absurd hp hp'
  · obtain ⟨hr, -⟩ := Prod.mk.inj (hrun.symm.trans hrefused)
    rw [h, Except.error.inj hr]
  · cases hrun.symm.trans hrefused

/-- An order to edit a member that is carried out edits the fields that are mentioned. -/
theorem edited_of_receipt? (h : c.receipt? (order.asking (.editMember id u)) = some receipt) :
    ∃ m m', Listing.members.Edited id m m' c.data
        (c.obey (order.asking (.editMember id u))).data ∧
      ∀ f, u.mentions f = false → Fielded.read f m' = Fielded.read f m := by
  obtain ⟨hp, done, hdone, -⟩ := receipt?_eq_some_iff.mp h
  have hrun : (Action.runEditMember id u).exec c.data = (.ok done, _) :=
    Prod.ext hdone (data_obey_of_entitled hp).symm
  obtain ⟨-, -, m, -, hedited, -⟩ := Action.runEditMember_ok hrun
  exact ⟨m, u.applyTo m, hedited, fun f hf => MemberUpdate.read_applyTo hf m⟩

/-- **Partial updates compose.**  Two updates of the settings that are accepted one after the other
are accepted as one: the settings are the same then, and the keys are those of both, each once and
in the order of all keys.  So are two edits of a member that are carried out one after the other:
the data is the same then, and the receipt is that of the second.  An update that mentions nothing
is refused, and no accepted update writes a field that it does not mention. -/
theorem partial_updates_compose :
    (∀ (u v : SettingsUpdate) (s s₁ s₂ : Settings) (keys₁ keys₂ : List SettingsKey),
      u.write.exec s = (.ok keys₁, s₁) → v.write.exec s₁ = (.ok keys₂, s₂) →
      (u.followedBy v).write.exec s =
        (.ok (SettingsKey.all.filter fun key => decide (key ∈ keys₁ ∨ key ∈ keys₂)), s₂)) ∧
    (∀ s, SettingsUpdate.nothing.write.exec s = (.error .nothingToUpdate, s)) ∧
    (∀ (u : SettingsUpdate) (s s' : Settings) (keys : List SettingsKey),
      u.write.exec s = (.ok keys, s') →
      ∀ key, u.mentions key = false → Fielded.read key s' = Fielded.read key s) ∧
    (∀ (u v : MemberUpdate) (c : Console) (x y : Order) (id : Uuid)
      (receipt₁ receipt₂ : ActionReceipt),
      c.receipt? (x.asking (.editMember id u)) = some receipt₁ →
      (c.obey (x.asking (.editMember id u))).receipt? (y.asking (.editMember id v)) =
        some receipt₂ →
      c.receipt? (y.asking (.editMember id (u.followedBy v))) = some receipt₂ ∧
        (c.obey (y.asking (.editMember id (u.followedBy v)))).data =
          ((c.obey (x.asking (.editMember id u))).obey (y.asking (.editMember id v))).data) ∧
    (∀ (c : Console) (actor : Actor) (origin : Origin) (occasion : Occasion) (id : Uuid),
      .editUsers ∈ actor.role.grants →
      perform actor origin occasion (.editMember id .nothing) c = (.error .nothingToUpdate, c)) ∧
    ∀ (u : MemberUpdate) (c : Console) (order : Order) (id : Uuid) (receipt : ActionReceipt),
      c.receipt? (order.asking (.editMember id u)) = some receipt →
      ∃ m m', Listing.members.Edited id m m' c.data
          (c.obey (order.asking (.editMember id u))).data ∧
        ∀ f, u.mentions f = false → Fielded.read f m' = Fielded.read f m := by
  refine ⟨fun u v s s₁ s₂ keys₁ keys₂ => SettingsUpdate.write_followedBy,
    SettingsUpdate.write_nothing, fun u s s' keys h key hkey => ?_,
    fun u v c x y id receipt₁ receipt₂ => receipt?_followedBy,
    fun c actor origin occasion id => perform_editMember_nothing origin occasion c,
    fun u c order id receipt => edited_of_receipt?⟩
  obtain ⟨-, -, -, rfl⟩ := SettingsUpdate.write_ok h
  exact SettingsUpdate.read_applyTo hkey s

/-- A higher age and another address. -/
def sampleLimits : SettingsUpdate :=
  { SettingsUpdate.nothing with minimumAge := some 21, supportEmail := some " help@a.b " }

/-- The age is set back, and maintenance begins. -/
def sampleReversal : SettingsUpdate :=
  { SettingsUpdate.nothing with maintenanceMode := some true, minimumAge := some 18 }

/-- Another name and another city. -/
def sampleProfile : MemberUpdate :=
  { MemberUpdate.nothing with displayName := some "Ava", city := some " Rome" }

/-- The name once more. -/
def sampleCorrection : MemberUpdate :=
  { MemberUpdate.nothing with displayName := some " Ava M. " }

theorem partial_updates_compose_sample :
    let edit (u : MemberUpdate) : Order := sampleOrder 1 (.editMember (Sample.memberId 1) u)
    (sampleLimits.followedBy sampleReversal).write.exec Settings.standard =
      (.ok [.maintenanceMode, .minimumAge, .supportEmail],
        { Settings.standard with maintenanceMode := true, supportEmail := "help@a.b" }) ∧
    (∃ receipt,
      (sample.obey (edit sampleProfile)).receipt? (edit sampleCorrection) = some receipt ∧
      sample.receipt? (edit (sampleProfile.followedBy sampleCorrection)) = some receipt) ∧
    (sample.obey (edit (sampleProfile.followedBy sampleCorrection))).data =
      ((sample.obey (edit sampleProfile)).obey (edit sampleCorrection)).data := by
  intro edit
  have hsettings := partial_updates_compose.1 sampleLimits sampleReversal
    Settings.standard { Settings.standard with minimumAge := 21, supportEmail := "help@a.b" }
    { Settings.standard with maintenanceMode := true, supportEmail := "help@a.b" }
    [.minimumAge, .supportEmail] [.maintenanceMode, .minimumAge] (by decide) (by decide)
  have hfirst : (sample.receipt? (edit sampleProfile)).isSome := by decide
  have hsecond : ((sample.obey (edit sampleProfile)).receipt? (edit sampleCorrection)).isSome := by
    decide
  obtain ⟨receipt₁, h₁⟩ := Option.isSome_iff_exists.mp hfirst
  obtain ⟨receipt₂, h₂⟩ := Option.isSome_iff_exists.mp hsecond
  obtain ⟨hreceipt, hdata⟩ := partial_updates_compose.2.2.2.1 sampleProfile sampleCorrection sample
    (edit .nothing) (edit .nothing) (Sample.memberId 1) receipt₁ receipt₂ h₁ h₂
  exact ⟨hsettings, ⟨receipt₂, h₂, hreceipt⟩, hdata⟩

end Console

end AdminConsole
