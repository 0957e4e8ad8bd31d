import AdminConsole.Action.Apply

/-! # What single edits do

`Edit.exec` says what an edit yields and what it leaves behind.  This module
computes it for every edit that an action consists of, from the pieces of the
programs up.  Each result has the same shape: a decision on the thing as it is
found, then either a refusal with the thing unchanged, or the thing as the
edit leaves it.

An edit is `Atomic` when a refusal leaves everything as it was.  Nothing in
`Edit` enforces that, for a refusal does not take back what was written before
it; it holds of an edit whose checks all come before its first write, and it is
carried from the edit of one thing to the list and on to the data.
-/
namespace AdminConsole

namespace Edit

variable {σ τ α β : Type}

/-! ## Pieces of programs -/

@[simp] theorem exec_pure (a : α) (s : σ) : (pure a : Edit σ α).exec s = (.ok a, s) := rfl

@[simp] theorem exec_throw (r : Refusal) (s : σ) :
    (throw r : Edit σ α).exec s = (.error r, s) := rfl

@[simp] theorem exec_get (s : σ) : (get : Edit σ σ).exec s = (.ok s, s) := rfl

@[simp] theorem exec_modify (f : σ → σ) (s : σ) :
    (modify f : Edit σ Unit).exec s = (.ok (), f s) := rfl

/-- What was written before a refusal stays written. -/
theorem exec_bind (e : Edit σ α) (f : α → Edit σ β) (s : σ) :
    (e >>= f).exec s = match e.exec s with
      | (.ok a, t) => (f a).exec t
      | (.error r, t) => (.error r, t) := by
  have hbind : (e >>= f).exec s = ExceptT.bindCont f (e.exec s).1 (e.exec s).2 := rfl
  rw [hbind]
  rcases e.exec s with ⟨_ | _, t⟩ <;> rfl

theorem pure_ok {a b : α} {s t : σ} (h : (pure a : Edit σ α).exec s = (.ok b, t)) :
    b = a ∧ t = s := by
  obtain ⟨hb, ht⟩ := Prod.mk.inj h
  exact ⟨(Except.ok.inj hb).symm, ht.symm⟩

/-- An edit that ends well went well in both parts. -/
theorem exec_bind_ok {e : Edit σ α} {f : α → Edit σ β} {s t : σ} {b : β}
    (h : (e >>= f).exec s = (.ok b, t)) :
    ∃ a u, e.exec s = (.ok a, u) ∧ (f a).exec u = (.ok b, t) := by
  rw [exec_bind] at h
  rcases hs : e.exec s with ⟨r | a, u⟩
  · rw [hs] at h
    simp only [Prod.mk.injEq, reduceCtorEq, false_and] at h
  · rw [hs] at h
    exact ⟨a, u, rfl, h⟩

theorem exec_within (part : σ → τ) (put : τ → σ → σ) (e : Edit τ α) (s : σ) :
    (within part put e).exec s = ((e.exec (part s)).1, put (e.exec (part s)).2 s) := rfl

@[simp] theorem exec_refuseIf?_none (s : σ) : (refuseIf? none).exec s = (.ok (), s) := rfl

@[simp] theorem exec_refuseIf?_some (r : Refusal) (s : σ) :
    (refuseIf? (some r)).exec s = (.error r, s) := rfl

theorem refuseIf?_ok {cause : Option Refusal} {s t : σ}
    (h : (refuseIf? cause).exec s = (.ok (), t)) : cause = none ∧ t = s := by
  cases cause with
  | none => exact ⟨rfl, (congrArg Prod.snd h).symm⟩
  | some r => simp only [exec_refuseIf?_some, Prod.mk.injEq, reduceCtorEq, false_and] at h

theorem exec_writeSome (value : Option α) (put : α → σ → σ) (s : σ) :
    (writeSome value put).exec s = (.ok (), (value.map fun v => put v s).getD s) := by
  cases value <;> rfl

/-! ## Refusals that leave everything as it was -/

/-- A refusal leaves everything as it was. -/
def Atomic (e : Edit σ α) : Prop := ∀ s t r, e.exec s = (.error r, t) → t = s

theorem within_ok {part : σ → τ} {put : τ → σ → σ} {e : Edit τ α} {s s' : σ} {a : α}
    (h : (within part put e).exec s = (.ok a, s')) :
    ∃ t, e.exec (part s) = (.ok a, t) ∧ s' = put t s := by
  rw [exec_within] at h
  obtain ⟨ha, hs⟩ := Prod.mk.inj h
  exact ⟨_, Prod.ext ha rfl, hs.symm⟩

theorem Atomic.within {part : σ → τ} {put : τ → σ → σ} (hput : ∀ s, put (part s) s = s)
    {e : Edit τ α} (he : Atomic e) : Atomic (within part put e) := by
  intro s t r h
  rw [exec_within] at h
  obtain ⟨hr, ht⟩ := Prod.mk.inj h
  have hpart : (e.exec (part s)).2 = part s := he _ _ r (Prod.ext hr rfl)
  rw [← ht, hpart, hput]

/-- An edit that only computes with what an atomic one yields is atomic. -/
theorem Atomic.bind_pure {e : Edit σ α} (he : Atomic e) {f : α → Edit σ β}
    (hf : ∀ a s, ∃ b, (f a).exec s = (.ok b, s)) : Atomic (e >>= f) := by
  intro s t r h
  rw [exec_bind] at h
  rcases hs : e.exec s with ⟨r' | a, u⟩
  · rw [hs] at h
    obtain ⟨-, rfl⟩ := Prod.mk.inj h
    exact he s _ r' hs
  · rw [hs] at h
    obtain ⟨b, hb⟩ := hf a u
    simp only [hb, Prod.mk.injEq, reduceCtorEq, false_and] at h

/-- An edit that begins with an atomic one that writes nothing is atomic if what follows is. -/
theorem Atomic.of_reads {e : Edit σ α} (he : ∀ s, (e.exec s).2 = s) {f : α → Edit σ β}
    (hf : ∀ a, Atomic (f a)) : Atomic (e >>= f) := by
  intro s t r h
  rw [exec_bind] at h
  have hu := he s
  rcases hs : e.exec s with ⟨r' | a, u⟩
  · rw [hs] at h hu
    obtain ⟨-, rfl⟩ := Prod.mk.inj h
    exact hu
  · rw [hs] at h hu
    obtain rfl : u = s := hu
    exact hf a _ t r h

theorem refuseIf?_reads (cause : Option Refusal) (s : σ) :
    ((refuseIf? cause).exec s).2 = s := by
  cases cause <;> rfl

/-! ## The first thing with an identifier -/

section First

variable [Entity τ] {missing : Refusal} {target : Uuid}

theorem first_missing {e : Edit τ Unit} {xs : List τ} (h : ∀ x ∈ xs, Entity.id x ≠ target) :
    first missing target e xs = (.error missing, xs) := by
  induction xs with
  | nil => rfl
  | cons x xs ih =>
    have hrest := ih fun y hy => h y (List.mem_cons_of_mem x hy)
    simp only [first, if_neg (h x List.mem_cons_self), hrest]

theorem first_at {e : Edit τ Unit} {pre post : List τ} {a : τ}
    (hpre : ∀ x ∈ pre, Entity.id x ≠ target) (ha : Entity.id a = target) :
    first missing target e (pre ++ a :: post) =
      ((e.exec a).1.map fun _ => (e.exec a).2, pre ++ (e.exec a).2 :: post) := by
  induction pre with
  | nil => simp only [List.nil_append, first, if_pos ha]
  | cons x pre ih =>
    have hrest := ih fun y hy => hpre y (List.mem_cons_of_mem x hy)
    simp only [List.cons_append, first, if_neg (hpre x List.mem_cons_self), hrest]

/-- There is a first thing with an identifier, or there is none with it. -/
theorem first_or_none (target : Uuid) (xs : List τ) :
    (∀ x ∈ xs, Entity.id x ≠ target) ∨
      ∃ pre a post, xs = pre ++ a :: post ∧ (∀ x ∈ pre, Entity.id x ≠ target) ∧
        Entity.id a = target := by
  cases hfind : xs.find? fun x => decide (Entity.id x = target) with
  | none => exact Or.inl fun x hx => by simpa using List.find?_eq_none.mp hfind x hx
  | some a =>
    obtain ⟨ha, pre, post, hxs, hpre⟩ := List.find?_eq_some_iff_append.mp hfind
    exact Or.inr ⟨pre, a, post, hxs, fun x hx => by simpa using hpre x hx, of_decide_eq_true ha⟩

/-- The first thing with an identifier is the one that is meant by it. -/
theorem find?_eq_first {pre post : List τ} {a : τ} (hpre : ∀ x ∈ pre, Entity.id x ≠ target)
    (ha : Entity.id a = target) : Entity.find? target (pre ++ a :: post) = some a := by
  refine List.find?_eq_some_iff_append.mpr ⟨decide_eq_true ha, pre, post, rfl, fun x hx => ?_⟩
  rw [decide_eq_false (hpre x hx)]
  rfl

/-- An edit of the first thing reaches that thing only. -/
theorem first_ok {e : Edit τ Unit} {xs ys : List τ} {b : τ}
    (h : first missing target e xs = (.ok b, ys)) :
    ∃ pre a post, xs = pre ++ a :: post ∧ (∀ x ∈ pre, Entity.id x ≠ target) ∧
      Entity.id a = target ∧ e.exec a = (.ok (), b) ∧ ys = pre ++ b :: post := by
  rcases first_or_none target xs with hnone | ⟨pre, a, post, rfl, hpre, ha⟩
  · rw [first_missing hnone] at h
    cases h
  · rw [first_at hpre ha] at h
    obtain ⟨hb, rfl⟩ := Prod.mk.inj h
    rcases he : e.exec a with ⟨_ | _, c⟩
    · rw [he] at hb
      cases hb
    · rw [he] at hb
      obtain rfl : c = b := Except.ok.inj hb
      exact ⟨pre, a, post, rfl, hpre, ha, he, rfl⟩

theorem first_atomic {e : Edit τ Unit} (he : Atomic e) :
    Atomic (first missing target e : Edit (List τ) τ) := by
  intro xs ys r h
  change first missing target e xs = (.error r, ys) at h
  rcases first_or_none target xs with hnone | ⟨pre, a, post, rfl, hpre, ha⟩
  · rw [first_missing hnone] at h
    exact (Prod.mk.inj h).2.symm
  · rw [first_at hpre ha] at h
    obtain ⟨hr, rfl⟩ := Prod.mk.inj h
    rcases hc : e.exec a with ⟨r' | _, c⟩
    · rw [he a c r' hc]
    · rw [hc] at hr
      cases hr

theorem takeFirst_ok {xs ys : List τ} {a : τ} (h : takeFirst missing target xs = (.ok a, ys)) :
    ∃ pre post, xs = pre ++ a :: post ∧ (∀ x ∈ pre, Entity.id x ≠ target) ∧
      Entity.id a = target ∧ ys = pre ++ post := by
  induction xs generalizing ys with
  | nil => simp [takeFirst] at h
  | cons x xs ih =>
    by_cases hx : Entity.id x = target
    · simp only [takeFirst, hx, ↓reduceIte, Prod.mk.injEq, Except.ok.injEq] at h
      obtain ⟨rfl, rfl⟩ := h
      exact ⟨[], xs, rfl, by simp, hx, rfl⟩
    · simp only [takeFirst, hx, ↓reduceIte] at h
      rcases hrest : takeFirst missing target xs with ⟨o, zs⟩
      rw [hrest] at h
      obtain ⟨rfl, rfl⟩ := Prod.mk.inj h
      obtain ⟨pre, post, hxs, hpre, hid, hzs⟩ := ih hrest
      refine ⟨x :: pre, post, by rw [hxs]; rfl, ?_, hid, by rw [hzs]; rfl⟩
      intro y hy
      rcases List.mem_cons.mp hy with rfl | hy
      · exact hx
      · exact hpre y hy

theorem takeFirst_atomic : Atomic (takeFirst missing target : Edit (List τ) τ) := by
  intro xs ys r h
  change takeFirst missing target xs = (.error r, ys) at h
  induction xs generalizing ys with
  | nil => simp only [takeFirst, Prod.mk.injEq] at h; exact h.2.symm
  | cons x xs ih =>
    by_cases hx : Entity.id x = target
    · simp [takeFirst, hx] at h
    · simp only [takeFirst, hx, ↓reduceIte] at h
      rcases hrest : takeFirst missing target xs with ⟨o, zs⟩
      rw [hrest] at h
      obtain ⟨rfl, rfl⟩ := Prod.mk.inj h
      rw [ih zs hrest]

end First

/-! ## Decisions -/

/-- The edit decides on what it finds, and then either refuses and writes nothing, or yields and
leaves what the decision says. -/
def Follows (e : Edit σ α) (decision : σ → Except Refusal (α × σ)) : Prop :=
  ∀ s, e.exec s = match decision s with
    | .ok (a, t) => (.ok a, t)
    | .error r => (.error r, s)

theorem Follows.ok {e : Edit σ α} {decision : σ → Except Refusal (α × σ)}
    (h : e.Follows decision) {s t : σ} {a : α} (hs : e.exec s = (.ok a, t)) :
    decision s = .ok (a, t) := by
  rw [h s] at hs
  split at hs
  · next hd =>
    obtain ⟨ha, ht⟩ := Prod.mk.inj hs
    rw [hd, Except.ok.inj ha, ht]
  · simp only [Prod.mk.injEq, reduceCtorEq, false_and] at hs

/-- The edit is refused for what the decision says. -/
theorem Follows.error_iff {e : Edit σ α} {decision : σ → Except Refusal (α × σ)}
    (h : e.Follows decision) (s : σ) (r : Refusal) :
    (e.exec s).1 = .error r ↔ decision s = .error r := by
  rw [h s]
  cases decision s with
  | ok _ => simp only [reduceCtorEq]
  | error _ => simp only [Except.error.injEq]

theorem Follows.atomic {e : Edit σ α} {decision : σ → Except Refusal (α × σ)}
    (h : e.Follows decision) : Atomic e := by
  intro s t r hs
  rw [h s] at hs
  split at hs
  · simp only [Prod.mk.injEq, reduceCtorEq, false_and] at hs
  · exact (Prod.mk.inj hs).2.symm

end Edit

/-! ## Edits of single things -/

namespace Member

/-- A member after a ban. -/
def afterBan (reason : Option String) (m : Member) : Member :=
  { m with status := .banned, banReason := Text.nonblank reason }

/-- A member after its ban was lifted. -/
def afterUnban (m : Member) : Member := { m with status := .active, banReason := none }

/-- A member after it was verified. -/
def afterVerify (m : Member) : Member := { m with verified := true }

theorem ban_follows (reason : Option String) : (ban reason).Follows fun m =>
    if m.status = .banned then .error .alreadyBanned else .ok ((), m.afterBan reason) := by
  intro m
  by_cases h : m.status = .banned <;> simp [ban, Edit.exec_bind, h, afterBan]

theorem unban_follows : unban.Follows fun m =>
    if m.status = .banned then .ok ((), m.afterUnban) else .error .notBanned := by
  intro m
  by_cases h : m.status = .banned <;> simp [unban, Edit.exec_bind, h, afterUnban]

theorem verify_follows : verify.Follows fun m =>
    if m.verified then .error .alreadyVerified else .ok ((), m.afterVerify) := by
  intro m
  by_cases h : m.verified <;> simp [verify, Edit.exec_bind, h, afterVerify]

end Member

namespace Report

/-- A report after it was closed. -/
def afterClose (status : ReportStatus) (handler : Uuid) (note : Option String) (r : Report) :
    Report :=
  { r with status := status, handledBy := some handler, resolutionNote := Text.nonblank note }

/-- A report after its content was taken down. -/
def afterTakeDown (handler : Uuid) (r : Report) : Report :=
  { r with contentRemoved := true, handledBy := some (r.handledBy.getD handler) }

theorem close_follows (status : ReportStatus) (handler : Uuid) (note : Option String) :
    (close status handler note).Follows fun r =>
      if r.status = .opened then .ok ((), r.afterClose status handler note)
      else .error .reportClosed := by
  intro r
  by_cases h : r.status = .opened <;> simp [close, Edit.exec_bind, h, afterClose]

theorem takeDown_follows (handler : Uuid) : (takeDown handler).Follows fun r =>
    if r.contentRemoved then .error .contentRemoved else .ok ((), r.afterTakeDown handler) := by
  intro r
  by_cases h : r.contentRemoved <;> simp [takeDown, Edit.exec_bind, h, afterTakeDown]

/-- The handler of a report that has one stays, whoever takes the content down. -/
theorem handledBy_afterTakeDown {handler : Uuid} {r : Report} (hr : r.handledBy.isSome) :
    (r.afterTakeDown handler).handledBy = r.handledBy := by
  obtain ⟨u, hu⟩ := Option.isSome_iff_exists.mp hr
  rw [afterTakeDown, hu, Option.getD_some]

end Report

namespace Payment

/-- A payment after it was refunded. -/
def afterRefund (now : Instant) (reason : Option String) (p : Payment) : Payment :=
  { p with status := .refunded, refundedAt := some now, refundReason := Text.nonblank reason }

theorem refund_follows (now : Instant) (reason : Option String) :
    (refund now reason).Follows fun p =>
      if p.status = .refunded then .error .alreadyRefunded
      else .ok ((), p.afterRefund now reason) := by
  intro p
  by_cases h : p.status = .refunded <;> simp [refund, Edit.exec_bind, h, afterRefund]

end Payment

namespace Campaign

/-- A campaign after it was brought into a state. -/
def afterTurn (status : CampaignStatus) (c : Campaign) : Campaign := { c with status := status }

theorem turn_follows (status : CampaignStatus) : (turn status).Follows fun c =>
    if c.status = status then .error (alreadyIn status) else .ok ((), c.afterTurn status) := by
  intro c
  by_cases h : c.status = status <;> simp [turn, Edit.exec_bind, h, afterTurn]

end Campaign

namespace TeamMember

/-- An operator after it was given a role. -/
def afterAssign (role : Role) (t : TeamMember) : TeamMember := { t with role := role }

theorem assign_follows (owners : Nat) (role : Role) : (assign owners role).Follows fun t =>
    if t.role = role then .error (.alreadyHasRole t.name role)
    else if t.role = .owner ∧ owners = 1 then .error .lastOwner
    else .ok ((), t.afterAssign role) := by
  intro t
  simp only [assign, Edit.exec_bind, Edit.exec_get]
  by_cases h : t.role = role
  · rw [if_pos h, if_pos h]
    rfl
  · rw [if_neg h, if_neg h]
    split <;> rfl

end TeamMember

/-! ## Partial updates -/

namespace MemberUpdate

/-- A member after the fields that are mentioned were written. -/
def applyTo (u : MemberUpdate) (m : Member) : Member :=
  { m with
    displayName := (u.displayName.map Text.trim).getD m.displayName
    email := (u.email.map Text.trim).getD m.email
    city := (u.city.map Text.trim).getD m.city }

theorem write_follows (u : MemberUpdate) : u.write.Follows fun m => .ok ((), u.applyTo m) := by
  intro m
  obtain ⟨displayName, email, city⟩ := u
  simp only [write, Edit.exec_bind, Edit.exec_writeSome]
  cases displayName <;> cases email <;> cases city <;> rfl

end MemberUpdate

namespace SettingsUpdate

/-- The setting of a key is mentioned. -/
def mentions (u : SettingsUpdate) : SettingsKey → Bool
  | .maintenanceMode => u.maintenanceMode.isSome
  | .newSignupsEnabled => u.newSignupsEnabled.isSome
  | .minimumAge => u.minimumAge.isSome
  | .maxDailyLikes => u.maxDailyLikes.isSome
  | .autoFlagThreshold => u.autoFlagThreshold.isSome
  | .supportEmail => u.supportEmail.isSome

/-- The keys that are mentioned, in order. -/
def keys (u : SettingsUpdate) : List SettingsKey := SettingsKey.all.filter u.mentions

/-- The settings after those that are mentioned were written. -/
def applyTo (u : SettingsUpdate) (s : Settings) : Settings where
  maintenanceMode := u.maintenanceMode.getD s.maintenanceMode
  newSignupsEnabled := u.newSignupsEnabled.getD s.newSignupsEnabled
  minimumAge := u.minimumAge.getD s.minimumAge
  maxDailyLikes := u.maxDailyLikes.getD s.maxDailyLikes
  autoFlagThreshold := u.autoFlagThreshold.getD s.autoFlagThreshold
  supportEmail := (u.supportEmail.map Text.trim).getD s.supportEmail

theorem exec_writeKey {α : Type} (key : SettingsKey) (value : Option α)
    (put : α → Settings → Settings) (field : Settings → α) (hput : ∀ s, put (field s) s = s)
    (s : Settings) :
    (writeKey key value put).exec s =
      (.ok (if value.isSome then [key] else []), put (value.getD (field s)) s) := by
  simp only [writeKey, Edit.exec_bind, Edit.exec_writeSome, Edit.exec_pure]
  cases value with
  | some v => rfl
  | none => rw [Option.map_none, Option.getD_none, Option.getD_none, hput]

theorem keys_eq_append (u : SettingsUpdate) : u.keys =
    (if u.maintenanceMode.isSome then [.maintenanceMode] else []) ++
    (if u.newSignupsEnabled.isSome then [.newSignupsEnabled] else []) ++
    (if u.minimumAge.isSome then [.minimumAge] else []) ++
    (if u.maxDailyLikes.isSome then [.maxDailyLikes] else []) ++
    (if u.autoFlagThreshold.isSome then [.autoFlagThreshold] else []) ++
    (if u.supportEmail.isSome then [.supportEmail] else []) := by
  have hcons : ∀ (k : SettingsKey) ks, (k :: ks).filter u.mentions =
      (if u.mentions k then [k] else []) ++ ks.filter u.mentions := by
    intro k ks
    rw [List.filter_cons]
    split <;> rfl
  simp only [keys, SettingsKey.all, hcons, List.filter_nil, List.append_nil, List.append_assoc]
  rfl

/-- An update that mentions nothing writes nothing, so its refusal comes in time although it comes
last. -/
theorem applyTo_of_keys_nil {u : SettingsUpdate} (h : u.keys = []) (s : Settings) :
    u.applyTo s = s := by
  have hnone : ∀ k, u.mentions k = false := fun k => by
    have hk := List.filter_eq_nil_iff.mp h k (by cases k <;> decide)
    simpa using hk
  have h₁ := hnone .maintenanceMode
  have h₂ := hnone .newSignupsEnabled
  have h₃ := hnone .minimumAge
  have h₄ := hnone .maxDailyLikes
  have h₅ := hnone .autoFlagThreshold
  have h₆ := hnone .supportEmail
  simp only [mentions, Option.isSome_eq_false_iff, Option.isNone_iff_eq_none] at h₁ h₂ h₃ h₄ h₅ h₆
  simp only [applyTo, h₁, h₂, h₃, h₄, h₅, h₆, Option.map_none, Option.getD_none]

theorem write_follows (u : SettingsUpdate) : u.write.Follows fun s =>
    match u.fault? with
    | some r => .error r
    | none => if u.keys = [] then .error .nothingToUpdate else .ok (u.keys, u.applyTo s) := by
  intro s
  cases hf : u.fault? with
  | some r => simp only [write, Edit.exec_bind, hf, Edit.exec_refuseIf?_some]
  | none =>
    have hwrite : u.write.exec s = (if u.keys.isEmpty then do
        throw Refusal.nothingToUpdate
        return u.keys
      else return u.keys : Edit Settings (List SettingsKey)).exec (u.applyTo s) := by
      have h₁ := exec_writeKey .maintenanceMode u.maintenanceMode
        (fun v s => { s with maintenanceMode := v }) Settings.maintenanceMode fun _ => rfl
      have h₂ := exec_writeKey .newSignupsEnabled u.newSignupsEnabled
        (fun v s => { s with newSignupsEnabled := v }) Settings.newSignupsEnabled fun _ => rfl
      have h₃ := exec_writeKey .minimumAge u.minimumAge
        (fun v s => { s with minimumAge := v }) Settings.minimumAge fun _ => rfl
      have h₄ := exec_writeKey .maxDailyLikes u.maxDailyLikes
        (fun v s => { s with maxDailyLikes := v }) Settings.maxDailyLikes fun _ => rfl
      have h₅ := exec_writeKey .autoFlagThreshold u.autoFlagThreshold
        (fun v s => { s with autoFlagThreshold := v }) Settings.autoFlagThreshold fun _ => rfl
      have h₆ := exec_writeKey .supportEmail (u.supportEmail.map Text.trim)
        (fun v s => { s with supportEmail := v }) Settings.supportEmail fun _ => rfl
      simp only [write, Edit.exec_bind, hf, Edit.exec_refuseIf?_none, h₁, h₂, h₃, h₄, h₅, h₆,
        Option.isSome_map, ← keys_eq_append, applyTo]
    rw [hwrite]
    by_cases hk : u.keys = []
    · rw [hk, applyTo_of_keys_nil hk]
      rfl
    · have hne : u.keys.isEmpty = false := by
        rw [Bool.eq_false_iff, Ne, List.isEmpty_iff]
        exact hk
      rw [hne]
      simp only [Bool.false_eq_true, ↓reduceIte, Edit.exec_pure, hk]

theorem exec_write {u : SettingsUpdate} (hfault : u.fault? = none) (hkeys : u.keys ≠ [])
    (s : Settings) : u.write.exec s = (.ok u.keys, u.applyTo s) := by
  rw [write_follows u s, hfault]
  simp only [if_neg hkeys]

theorem write_ok {u : SettingsUpdate} {s s' : Settings} {keys : List SettingsKey}
    (h : u.write.exec s = (.ok keys, s')) :
    u.fault? = none ∧ u.keys ≠ [] ∧ keys = u.keys ∧ s' = u.applyTo s := by
  have hok := (write_follows u).ok h
  split at hok
  · cases hok
  · next hfault =>
    split at hok
    · cases hok
    · next hkeys =>
      obtain ⟨rfl, rfl⟩ := Prod.mk.inj (Except.ok.inj hok)
      exact ⟨hfault, hkeys, rfl, rfl⟩

end SettingsUpdate

end AdminConsole
