import AdminConsole.Proofs.Action.Edit

/-! # What an action makes of the data

`Action.Effect` is the table of what each of the thirteen actions does when it
is performed: which thing it reaches, what it asks of that thing, and what it
leaves in its place.  `Action.run_ok` reads the table off the programs: nothing
else can be the outcome of an action that is performed.  `Action.run_atomic`
settles the other outcome: an action that is refused leaves the data as it was.

Everything later that speaks of a performed action goes through the table and
not through the programs.
-/
namespace AdminConsole

namespace ActionKind

/-- The kind that is recorded under a name. -/
def ofName? (s : String) : Option ActionKind := all.find? fun kind => kind.name == s

/-- The name under which an action is recorded tells its kind. -/
theorem ofName?_name (kind : ActionKind) : ofName? kind.name = some kind := by
  cases kind <;> decide

end ActionKind

namespace Listing

variable {α : Type} [Entity α] (l : Listing α) {target : Uuid} {d d' : Data}

/-- `d'` is `d` with `a`, the first thing that has the identifier, changed to `b`. -/
def Edited (target : Uuid) (a b : α) (d d' : Data) : Prop :=
  ∃ pre post, l.items d = pre ++ a :: post ∧ (∀ x ∈ pre, Entity.id x ≠ target) ∧
    Entity.id a = target ∧ d' = l.put (pre ++ b :: post) d

/-- `d'` is `d` without `a`, the first thing that had the identifier. -/
def Removed (target : Uuid) (a : α) (d d' : Data) : Prop :=
  ∃ pre post, l.items d = pre ++ a :: post ∧ (∀ x ∈ pre, Entity.id x ≠ target) ∧
    Entity.id a = target ∧ d' = l.put (pre ++ post) d

/-- The first thing with the identifier was as `before` asks, and became what `after` makes of
it. -/
def Turned (target : Uuid) (before : α → Prop) (after : α → α) (d : Data) (result : Affected)
    (d' : Data) : Prop :=
  ∃ a, before a ∧ l.Edited target a (after a) d d' ∧ result = l.affected (after a)

theorem edit_ok {e : Edit α Unit} {p : Performed}
    (h : (l.edit target e).exec d = (.ok p, d')) :
    ∃ a b, e.exec a = (.ok (), b) ∧ l.Edited target a b d d' ∧
      p = { result := l.affected b, target := target.text } := by
  obtain ⟨b, u, hb, hp⟩ := Edit.exec_bind_ok h
  obtain ⟨ys, hys, rfl⟩ := Edit.within_ok hb
  obtain ⟨pre, a, post, hxs, hpre, ha, he, rfl⟩ := Edit.first_ok hys
  obtain ⟨rfl, rfl⟩ := Edit.pure_ok hp
  exact ⟨a, b, he, ⟨pre, post, hxs, hpre, ha, rfl⟩, rfl⟩

/-- What an edit decides about single things is decided about the first thing with the
identifier. -/
theorem edit_turned {e : Edit α Unit} {before : α → Prop} {after : α → α} {p : Performed}
    (he : ∀ a b, e.exec a = (.ok (), b) → before a ∧ b = after a)
    (h : (l.edit target e).exec d = (.ok p, d')) :
    p.target = target.text ∧ l.Turned target before after d p.result d' := by
  obtain ⟨a, b, hab, hd, rfl⟩ := l.edit_ok h
  obtain ⟨ha, rfl⟩ := he a b hab
  exact ⟨rfl, a, ha, hd, rfl⟩

/-- An edit of a section is one of its list, and writes nothing beside. -/
theorem exec_edit (target : Uuid) (e : Edit α Unit) (d : Data) :
    (l.edit target e).exec d =
      ((Edit.first l.missing target e (l.items d)).1.map
          fun a => { result := l.affected a, target := target.text },
        l.put (Edit.first l.missing target e (l.items d)).2 d) := by
  rw [edit, Edit.exec_bind, Edit.exec_within]
  have hfirst : Edit.exec (Edit.first l.missing target e) (l.items d) =
      Edit.first l.missing target e (l.items d) := rfl
  rw [hfirst]
  rcases Edit.first l.missing target e (l.items d) with ⟨_ | _, _⟩ <;> rfl

/-- An edit that succeeds at the first thing with the identifier succeeds. -/
theorem exec_edit_at {e : Edit α Unit} {pre post : List α} {a b : α}
    (hitems : l.items d = pre ++ a :: post) (hpre : ∀ x ∈ pre, Entity.id x ≠ target)
    (ha : Entity.id a = target) (he : e.exec a = (.ok (), b)) :
    (l.edit target e).exec d =
      (.ok { result := l.affected b, target := target.text }, l.put (pre ++ b :: post) d) := by
  rw [exec_edit, hitems, Edit.first_at hpre ha, he]
  rfl

/-- What comes of an edit is what comes of it at the first thing with the identifier. -/
theorem edit_outcome (target : Uuid) (e : Edit α Unit) (d : Data) :
    ((∀ x ∈ l.items d, Entity.id x ≠ target) ∧
      ((l.edit target e).exec d).1 = .error l.missing) ∨
    ∃ pre a post, l.items d = pre ++ a :: post ∧ (∀ x ∈ pre, Entity.id x ≠ target) ∧
      Entity.id a = target ∧ ((l.edit target e).exec d).1 =
        (e.exec a).1.map fun _ => { result := l.affected (e.exec a).2, target := target.text } := by
  rw [exec_edit]
  rcases Edit.first_or_none target (l.items d) with hnone | ⟨pre, a, post, hitems, hpre, ha⟩
  · refine Or.inl ⟨hnone, ?_⟩
    rw [Edit.first_missing hnone]
    rfl
  · refine Or.inr ⟨pre, a, post, hitems, hpre, ha, ?_⟩
    rw [hitems, Edit.first_at hpre ha]
    cases (e.exec a).1 <;> rfl

theorem edit_atomic {e : Edit α Unit} (he : e.Atomic) : (l.edit target e).Atomic :=
  Edit.Atomic.bind_pure (Edit.Atomic.within l.put_items (Edit.first_atomic he))
    fun a _ => ⟨{ result := l.affected a, target := target.text }, rfl⟩

theorem remove_ok {p : Performed} (h : (l.remove target).exec d = (.ok p, d')) :
    ∃ a, l.Removed target a d d' ∧ p = { result := l.affected a, target := target.text } := by
  obtain ⟨a, u, ha, hp⟩ := Edit.exec_bind_ok h
  obtain ⟨ys, hys, rfl⟩ := Edit.within_ok ha
  obtain ⟨pre, post, hxs, hpre, hid, rfl⟩ := Edit.takeFirst_ok hys
  obtain ⟨rfl, rfl⟩ := Edit.pure_ok hp
  exact ⟨a, ⟨pre, post, hxs, hpre, hid, rfl⟩, rfl⟩

theorem remove_atomic : (l.remove target).Atomic :=
  Edit.Atomic.bind_pure (Edit.Atomic.within l.put_items Edit.takeFirst_atomic)
    fun a _ => ⟨{ result := l.affected a, target := target.text }, rfl⟩

end Listing

namespace Action

/-- The target that the record of the action names; it does not depend on the data. -/
def target : Action → String
  | banMember id _ | unbanMember id | verifyMember id | editMember id _ | deleteMember id
  | resolveReport id _ | dismissReport id _ | removeContent id | refundPayment id _
  | pauseCampaign id | resumeCampaign id => id.text
  | assignRole id role => id.text ++ ":" ++ role.tag
  | updateSettings u => ",".intercalate (u.keys.map SettingsKey.name)

/-- What a performed action of an actor at an instant makes of the data `d`: its result and the
data `d'` after it. -/
def Effect (actor : Uuid) (now : Instant) (a : Action) (d : Data) (result : Affected)
    (d' : Data) : Prop :=
  match a with
  | banMember id reason =>
    Listing.members.Turned id (·.status ≠ .banned) (Member.afterBan reason) d result d'
  | unbanMember id => Listing.members.Turned id (·.status = .banned) Member.afterUnban d result d'
  | verifyMember id => Listing.members.Turned id (·.verified = false) Member.afterVerify d result d'
  | editMember id u =>
    u.fault? = none ∧ Listing.members.Turned id (fun _ => True) u.applyTo d result d'
  | deleteMember id => ∃ m, Listing.members.Removed id m d d' ∧ result = .member m
  | resolveReport id note =>
    Listing.reports.Turned id (·.status = .opened) (Report.afterClose .resolved actor note) d
      result d'
  | dismissReport id note =>
    Listing.reports.Turned id (·.status = .opened) (Report.afterClose .dismissed actor note) d
      result d'
  | removeContent id =>
    Listing.reports.Turned id (·.contentRemoved = false) (Report.afterTakeDown actor) d result d'
  | refundPayment id reason =>
    Listing.payments.Turned id (·.status ≠ .refunded) (Payment.afterRefund now reason) d result d'
  | pauseCampaign id =>
    Listing.campaigns.Turned id (·.status ≠ .paused) (Campaign.afterTurn .paused) d result d'
  | resumeCampaign id =>
    Listing.campaigns.Turned id (·.status ≠ .active) (Campaign.afterTurn .active) d result d'
  | assignRole id role =>
    Listing.team.Turned id
      (fun t => t.role ≠ role ∧ ¬ (t.role = .owner ∧ TeamMember.owners d.team = 1))
      (TeamMember.afterAssign role) d result d'
  | updateSettings u =>
    u.fault? = none ∧ u.keys ≠ [] ∧ result = .settings (u.applyTo d.settings) ∧
      d' = { d with settings := u.applyTo d.settings }

section Run

variable {actor : Uuid} {now : Instant} {d d' : Data} {p : Performed}

theorem runEditMember_ok {id : Uuid} {u : MemberUpdate}
    (h : (runEditMember id u).exec d = (.ok p, d')) :
    p.target = id.text ∧ u.fault? = none ∧
      Listing.members.Turned id (fun _ => True) u.applyTo d p.result d' := by
  obtain ⟨_, _, hcheck, hedit⟩ := Edit.exec_bind_ok h
  obtain ⟨hfault, rfl⟩ := Edit.refuseIf?_ok hcheck
  have hwrite : ∀ m m', u.write.exec m = (.ok (), m') →
      (fun _ => True) m ∧ m' = u.applyTo m := by
    intro m m' hm
    have hok := (MemberUpdate.write_follows u).ok hm
    exact ⟨trivial, (congrArg Prod.snd (Except.ok.inj hok)).symm⟩
  obtain ⟨htarget, hturned⟩ := Listing.members.edit_turned hwrite hedit
  exact ⟨htarget, hfault, hturned⟩

theorem runAssignRole_ok {id : Uuid} {role : Role}
    (h : (runAssignRole id role).exec d = (.ok p, d')) :
    p.target = id.text ++ ":" ++ role.tag ∧ Listing.team.Turned id
      (fun t => t.role ≠ role ∧ ¬ (t.role = .owner ∧ TeamMember.owners d.team = 1))
      (TeamMember.afterAssign role) d p.result d' := by
  obtain ⟨_, _, hget, hrest⟩ := Edit.exec_bind_ok h
  obtain ⟨hd, rfl⟩ := Prod.mk.inj hget
  obtain rfl := Except.ok.inj hd
  obtain ⟨q, u, hq, hp⟩ := Edit.exec_bind_ok hrest
  obtain ⟨rfl, rfl⟩ := Edit.pure_ok hp
  have hdecide : ∀ t t', (TeamMember.assign (TeamMember.owners d.team) role).exec t = (.ok (), t') →
      (t.role ≠ role ∧ ¬ (t.role = .owner ∧ TeamMember.owners d.team = 1)) ∧
        t' = t.afterAssign role := by
    intro t t' ht
    have hok := (TeamMember.assign_follows _ role).ok ht
    split at hok
    · cases hok
    · next hrole =>
      split at hok
      · cases hok
      · next howner =>
        exact ⟨⟨hrole, howner⟩, (congrArg Prod.snd (Except.ok.inj hok)).symm⟩
  obtain ⟨htarget, hturned⟩ := Listing.team.edit_turned hdecide hq
  exact ⟨by rw [htarget], hturned⟩

theorem runUpdateSettings_ok {u : SettingsUpdate}
    (h : (runUpdateSettings u).exec d = (.ok p, d')) :
    p.target = ",".intercalate (u.keys.map SettingsKey.name) ∧ u.fault? = none ∧ u.keys ≠ [] ∧
      p.result = .settings (u.applyTo d.settings) ∧
      d' = { d with settings := u.applyTo d.settings } := by
  obtain ⟨keys, d₁, hwrite, hrest⟩ := Edit.exec_bind_ok h
  obtain ⟨s, hs, rfl⟩ := Edit.within_ok hwrite
  obtain ⟨_, _, hget, hp⟩ := Edit.exec_bind_ok hrest
  obtain ⟨hd, rfl⟩ := Prod.mk.inj hget
  obtain rfl := Except.ok.inj hd
  obtain ⟨rfl, rfl⟩ := Edit.pure_ok hp
  obtain ⟨hfault, hkeys, rfl, rfl⟩ := SettingsUpdate.write_ok hs
  exact ⟨rfl, hfault, hkeys, rfl, rfl⟩

/-- From a decision that refuses in one case, what the thing was and what it became. -/
theorem ok_of_refuse {σ : Type} {c : Prop} [Decidable c] {r : Refusal} {a b : σ}
    (h : (if c then .error r else .ok ((), a) : Except Refusal (Unit × σ)) = .ok ((), b)) :
    ¬ c ∧ b = a := by
  split at h
  · cases h
  · next hc => exact ⟨hc, (congrArg Prod.snd (Except.ok.inj h)).symm⟩

/-- From a decision that goes on in one case, what the thing was and what it became. -/
theorem ok_of_allow {σ : Type} {c : Prop} [Decidable c] {r : Refusal} {a b : σ}
    (h : (if c then .ok ((), a) else .error r : Except Refusal (Unit × σ)) = .ok ((), b)) :
    c ∧ b = a := by
  split at h
  · next hc => exact ⟨hc, (congrArg Prod.snd (Except.ok.inj h)).symm⟩
  · cases h

/-- **What a performed action makes of the data.** -/
theorem run_ok {a : Action} (h : (a.run actor now).exec d = (.ok p, d')) :
    p.target = a.target ∧ a.Effect actor now d p.result d' := by
  cases a with
  | banMember id reason =>
    exact Listing.members.edit_turned
      (fun _ _ hm => ok_of_refuse ((Member.ban_follows reason).ok hm)) h
  | unbanMember id =>
    exact Listing.members.edit_turned (fun _ _ hm => ok_of_allow (Member.unban_follows.ok hm)) h
  | verifyMember id =>
    exact Listing.members.edit_turned (fun _ _ hm => by
      simpa using ok_of_refuse (Member.verify_follows.ok hm)) h
  | editMember id u => exact runEditMember_ok h
  | deleteMember id =>
    obtain ⟨m, hm, rfl⟩ := Listing.members.remove_ok h
    exact ⟨rfl, m, hm, rfl⟩
  | resolveReport id note =>
    exact Listing.reports.edit_turned
      (fun _ _ hr => ok_of_allow ((Report.close_follows .resolved actor note).ok hr)) h
  | dismissReport id note =>
    exact Listing.reports.edit_turned
      (fun _ _ hr => ok_of_allow ((Report.close_follows .dismissed actor note).ok hr)) h
  | removeContent id =>
    exact Listing.reports.edit_turned (fun _ _ hr => by
      simpa using ok_of_refuse ((Report.takeDown_follows actor).ok hr)) h
  | refundPayment id reason =>
    exact Listing.payments.edit_turned
      (fun _ _ hp => ok_of_refuse ((Payment.refund_follows now reason).ok hp)) h
  | pauseCampaign id =>
    exact Listing.campaigns.edit_turned
      (fun _ _ hc => ok_of_refuse ((Campaign.turn_follows .paused).ok hc)) h
  | resumeCampaign id =>
    exact Listing.campaigns.edit_turned
      (fun _ _ hc => ok_of_refuse ((Campaign.turn_follows .active).ok hc)) h
  | assignRole id role => exact runAssignRole_ok h
  | updateSettings u => exact runUpdateSettings_ok h

/-- **An action that is refused leaves the data as it was.** -/
theorem run_atomic (actor : Uuid) (now : Instant) (a : Action) : (a.run actor now).Atomic := by
  cases a with
  | banMember id reason => exact Listing.members.edit_atomic (Member.ban_follows reason).atomic
  | unbanMember id => exact Listing.members.edit_atomic Member.unban_follows.atomic
  | verifyMember id => exact Listing.members.edit_atomic Member.verify_follows.atomic
  | editMember id u =>
    exact Edit.Atomic.of_reads (Edit.refuseIf?_reads _) fun _ =>
      Listing.members.edit_atomic (MemberUpdate.write_follows u).atomic
  | deleteMember id => exact Listing.members.remove_atomic
  | resolveReport id note =>
    exact Listing.reports.edit_atomic (Report.close_follows .resolved actor note).atomic
  | dismissReport id note =>
    exact Listing.reports.edit_atomic (Report.close_follows .dismissed actor note).atomic
  | removeContent id => exact Listing.reports.edit_atomic (Report.takeDown_follows actor).atomic
  | refundPayment id reason =>
    exact Listing.payments.edit_atomic (Payment.refund_follows now reason).atomic
  | pauseCampaign id => exact Listing.campaigns.edit_atomic (Campaign.turn_follows .paused).atomic
  | resumeCampaign id => exact Listing.campaigns.edit_atomic (Campaign.turn_follows .active).atomic
  | assignRole id role =>
    refine Edit.Atomic.of_reads (fun _ => rfl) fun d => ?_
    exact Edit.Atomic.bind_pure (Listing.team.edit_atomic (TeamMember.assign_follows _ role).atomic)
      fun p _ => ⟨_, rfl⟩
  | updateSettings u =>
    refine Edit.Atomic.bind_pure
      (Edit.Atomic.within (fun _ => rfl) (SettingsUpdate.write_follows u).atomic) fun keys d => ?_
    exact ⟨_, rfl⟩

end Run

end Action

end AdminConsole
