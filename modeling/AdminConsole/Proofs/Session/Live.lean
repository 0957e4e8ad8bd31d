import AdminConsole.Proofs.Session.Store
import Mathlib.Data.List.Nodup

/-! # The live session of a token

An expired session stays in the store until somebody meets it: a lookup, a
switch of the role, or a purge.  So the sessions that are held say little.
What counts is the **live** session of a token at an instant that the clock has
not passed yet: it does not matter there whether an expired one was dropped.

Each operation is told by what it makes of the live session of every token, and
its answer by the live session of its own token.  This takes that no two
sessions have the same token, or a purge could bring to light one session behind
another.
-/
namespace AdminConsole

namespace Instant

variable {a b c : Instant}

theorem le_iff : a ≤ b ↔ a.seconds < b.seconds ∨ a.seconds = b.seconds ∧ a.nanos ≤ b.nanos := by
  show le a b = true ↔ _
  simp only [le, Bool.or_eq_true, Bool.and_eq_true, decide_eq_true_eq, beq_iff_eq]

theorem le_refl (a : Instant) : a ≤ a := le_iff.mpr (Or.inr ⟨rfl, Nat.le_refl _⟩)

theorem le_trans (h : a ≤ b) (h' : b ≤ c) : a ≤ c := by
  rw [le_iff] at *
  omega

end Instant

namespace Session

variable {s : Session} {now : Instant}

theorem isExpired_iff : s.isExpired now = true ↔ s.expiresAt ≤ now := decide_eq_true_iff

theorem isExpired_eq_false_iff : s.isExpired now = false ↔ ¬ s.expiresAt ≤ now :=
  decide_eq_false_iff_not

theorem isExpired_mono {later : Instant} (h : now ≤ later) (hs : s.isExpired now = true) :
    s.isExpired later = true :=
  isExpired_iff.mpr (Instant.le_trans (isExpired_iff.mp hs) h)

/-- A switch of the role does not touch the expiry. -/
theorem isExpired_withRole (role : Role) : (s.withRole role).isExpired now = s.isExpired now := rfl

end Session

namespace SessionStore

variable {store : SessionStore} {now t : Instant} {id token : Uuid}

/-- The session of a token, unless it is expired. -/
def live (store : SessionStore) (now : Instant) (id : Uuid) : Option Session :=
  (store.find? id).filter fun s => !s.isExpired now

/-- No two sessions have the same token. -/
def Distinct (store : SessionStore) : Prop := (store.sessions.map Session.id).Nodup

theorem find?_eq_some_iff (h : store.Distinct) {s : Session} :
    store.find? id = some s ↔ s ∈ store.sessions ∧ s.id = id := by
  constructor
  · intro hs
    exact ⟨find?_mem hs, find?_id hs⟩
  · rintro ⟨hs, rfl⟩
    cases hfind : store.find? s.id with
    | none => exact absurd rfl (id_ne_of_find?_eq_none hfind s hs)
    | some other =>
      have hsame := List.inj_on_of_nodup_map h (find?_mem hfind) hs (find?_id hfind)
      rw [hsame]

theorem live_eq_some_iff (h : store.Distinct) {s : Session} :
    store.live now id = some s ↔
      s ∈ store.sessions ∧ s.id = id ∧ s.isExpired now = false := by
  unfold live
  rw [Option.filter_eq_some_iff, find?_eq_some_iff h, Bool.not_eq_true', and_assoc]

/-- A session that is live later is live now. -/
theorem live_of_live_later (h : now ≤ t) {s : Session} (hs : store.live t id = some s) :
    store.live now id = some s := by
  unfold live at hs ⊢
  rw [Option.filter_eq_some_iff, Bool.not_eq_true'] at hs ⊢
  refine ⟨hs.1, Bool.eq_false_iff.mpr fun he => ?_⟩
  rw [Session.isExpired_mono h he] at hs
  cases hs.2

/-- Stores that hold the same sessions of a token that are not expired have the same live one. -/
theorem live_congr {a b : SessionStore} (ha : a.Distinct) (hb : b.Distinct)
    (h : ∀ s : Session, s.id = id → s.isExpired t = false → (s ∈ a.sessions ↔ s ∈ b.sessions)) :
    a.live t id = b.live t id := by
  apply Option.ext
  intro s
  rw [live_eq_some_iff ha, live_eq_some_iff hb]
  constructor
  · rintro ⟨hs, hid, hlive⟩
    exact ⟨(h s hid hlive).mp hs, hid, hlive⟩
  · rintro ⟨hs, hid, hlive⟩
    exact ⟨(h s hid hlive).mpr hs, hid, hlive⟩

/-! ## What a lookup and a switch do -/

/-- The store with the session of a token given another role. -/
def given (store : SessionStore) (token : Uuid) (role : Role) : SessionStore :=
  { store with sessions := store.sessions.map fun s => if s.id = token then s.withRole role else s }

theorem get_of_none (h : store.find? id = none) (now : Instant) :
    store.get now id = (none, store) := by
  unfold get
  rw [h]

theorem get_of_expired {s : Session} (h : store.find? id = some s)
    (he : s.isExpired now = true) : store.get now id = (none, store.without id) := by
  unfold get
  rw [h]
  exact if_pos he

theorem get_of_live {s : Session} (h : store.find? id = some s) (he : s.isExpired now = false) :
    store.get now id = (some s, store) := by
  unfold get
  rw [h]
  exact if_neg (Bool.eq_false_iff.mp he)

theorem switchRole_of_none (h : store.find? id = none) (now : Instant) (role : Role) :
    store.switchRole now id role = (none, store) := by
  unfold switchRole
  rw [h]

theorem switchRole_of_expired {s : Session} (h : store.find? id = some s)
    (he : s.isExpired now = true) (role : Role) :
    store.switchRole now id role = (none, store.without id) := by
  unfold switchRole
  rw [h]
  exact if_pos he

theorem switchRole_of_live {s : Session} (h : store.find? id = some s)
    (he : s.isExpired now = false) (role : Role) :
    store.switchRole now id role = (some (s.withRole role), store.given id role) := by
  unfold switchRole
  rw [h]
  exact if_neg (Bool.eq_false_iff.mp he)

/-- Whoever is found among switched sessions is switched if it has the token. -/
theorem find?_given (store : SessionStore) (token : Uuid) (role : Role) (id : Uuid) :
    (store.given token role).find? id =
      (store.find? id).map fun s => if s.id = token then s.withRole role else s := by
  unfold find? given
  rw [List.find?_map]
  congr 2
  funext s
  show decide ((if s.id = token then s.withRole role else s).id = id) = _
  split <;> rfl

/-! ## Distinct tokens -/

theorem Distinct.filter (h : store.Distinct) (p : Session → Bool) :
    Distinct { store with sessions := store.sessions.filter p } :=
  h.sublist (List.filter_sublist.map Session.id)

theorem Distinct.without (h : store.Distinct) (token : Uuid) : (store.without token).Distinct :=
  h.filter _

theorem Distinct.purge (h : store.Distinct) (now : Instant) : (store.purge now).2.Distinct :=
  h.filter _

theorem Distinct.get (h : store.Distinct) (now : Instant) (token : Uuid) :
    (store.get now token).2.Distinct := by
  rcases get_snd store now token with hsame | hdropped
  · rw [hsame]
    exact h
  · rw [hdropped]
    exact h.without token

/-- A switch keeps the tokens, as it keeps all of a session but the role. -/
theorem Distinct.given (h : store.Distinct) (token : Uuid) (role : Role) :
    (store.given token role).Distinct := by
  show (List.map Session.id (List.map _ store.sessions)).Nodup
  have hids : List.map Session.id (store.given token role).sessions =
      store.sessions.map Session.id := by
    refine List.map_map.trans (List.map_congr_left fun s _ => ?_)
    show (if s.id = token then s.withRole role else s).id = s.id
    split <;> rfl
  exact hids ▸ h

theorem Distinct.switchRole (h : store.Distinct) (now : Instant) (token : Uuid) (role : Role) :
    (store.switchRole now token role).2.Distinct := by
  cases hs : store.find? token with
  | none =>
    rw [switchRole_of_none hs]
    exact h
  | some s =>
    cases he : s.isExpired now with
    | true =>
      rw [switchRole_of_expired hs he]
      exact h.without token
    | false =>
      rw [switchRole_of_live hs he]
      exact h.given token role

theorem Distinct.started (h : store.Distinct) (now : Instant) (token : Uuid) (actor : Actor) :
    (store.started now token actor).Distinct := by
  unfold SessionStore.started create
  cases now.plusSeconds? store.ttl with
  | none => exact h
  | some expiry =>
    show (List.map Session.id (_ ++ [_])).Nodup
    rw [List.map_append, List.map_singleton, List.nodup_append]
    refine ⟨h.without token, List.nodup_singleton _, ?_⟩
    intro x hx y hy
    obtain ⟨s, hs, rfl⟩ := List.mem_map.mp hx
    rw [List.mem_singleton.mp hy]
    exact (mem_without.mp hs).2

/-! ## What an operation answers -/

theorem live_of_find?_eq_none (h : store.find? id = none) (now : Instant) :
    store.live now id = none := by
  unfold live
  rw [h, Option.filter_none]

theorem live_of_expired {s : Session} (h : store.find? id = some s)
    (he : s.isExpired now = true) : store.live now id = none := by
  unfold live
  rw [h, Option.filter_some_neg]
  rw [he]
  decide

theorem live_of_not_expired {s : Session} (h : store.find? id = some s)
    (he : s.isExpired now = false) : store.live now id = some s := by
  unfold live
  rw [h, Option.filter_some_pos]
  rw [he]
  decide

theorem get_fst (store : SessionStore) (now : Instant) (id : Uuid) :
    (store.get now id).1 = store.live now id := by
  cases hs : store.find? id with
  | none => rw [get_of_none hs, live_of_find?_eq_none hs]
  | some s =>
    cases he : s.isExpired now with
    | true => rw [get_of_expired hs he, live_of_expired hs he]
    | false => rw [get_of_live hs he, live_of_not_expired hs he]

theorem switchRole_fst (store : SessionStore) (now : Instant) (id : Uuid) (role : Role) :
    (store.switchRole now id role).1 = (store.live now id).map (Session.withRole · role) := by
  cases hs : store.find? id with
  | none => rw [switchRole_of_none hs, live_of_find?_eq_none hs, Option.map_none]
  | some s =>
    cases he : s.isExpired now with
    | true => rw [switchRole_of_expired hs he, live_of_expired hs he, Option.map_none]
    | false => rw [switchRole_of_live hs he, live_of_not_expired hs he, Option.map_some]

/-- A purge tells the number of the expired sessions. -/
theorem purge_fst (store : SessionStore) (now : Instant) :
    (store.purge now).1 = store.sessions.countP (Session.isExpired · now) := by
  have hlen := List.length_eq_countP_add_countP (Session.isExpired · now) (l := store.sessions)
  show store.sessions.length - (store.sessions.filter fun s => !s.isExpired now).length = _
  rw [← List.countP_eq_length_filter, hlen]
  simp only [Bool.not_eq_true, Bool.decide_eq_false]
  omega

/-- A purge keeps the sessions that are not expired. -/
theorem mem_purge {s : Session} :
    s ∈ (store.purge now).2.sessions ↔ s ∈ store.sessions ∧ s.isExpired now = false := by
  show s ∈ store.sessions.filter _ ↔ _
  rw [List.mem_filter, Bool.not_eq_true']

/-! ## What an operation makes of a live session -/

theorem live_without (h : store.Distinct) (token : Uuid) :
    (store.without token).live t id = if token = id then none else store.live t id := by
  split
  · next he =>
    subst he
    apply Option.eq_none_iff_forall_ne_some.mpr
    intro s hs
    obtain ⟨hmem, hid, -⟩ := (live_eq_some_iff (h.without token)).mp hs
    exact (mem_without.mp hmem).2 hid
  · next hne =>
    refine live_congr (h.without token) h fun s hid _ => ?_
    rw [mem_without, hid]
    exact and_iff_left (Ne.symm hne)

/-- Nobody misses an expired session. -/
theorem live_without_expired (h : store.Distinct) {s : Session} (hs : store.find? token = some s)
    (hexpired : s.isExpired t = true) : (store.without token).live t id = store.live t id := by
  rw [live_without h]
  split
  · next he =>
    subst he
    exact (live_of_expired hs hexpired).symm
  · rfl

theorem live_get (h : store.Distinct) (hnow : now ≤ t) (token : Uuid) :
    (store.get now token).2.live t id = store.live t id := by
  cases hs : store.find? token with
  | none => rw [get_of_none hs]
  | some s =>
    cases he : s.isExpired now with
    | true =>
      rw [get_of_expired hs he]
      exact live_without_expired h hs (Session.isExpired_mono hnow he)
    | false => rw [get_of_live hs he]

theorem live_purge (h : store.Distinct) (hnow : now ≤ t) :
    (store.purge now).2.live t id = store.live t id := by
  refine live_congr (h.purge now) h fun s _ hlive => ?_
  rw [mem_purge]
  refine and_iff_left (Bool.eq_false_iff.mpr fun he => ?_)
  rw [Session.isExpired_mono hnow he] at hlive
  cases hlive

theorem live_given (store : SessionStore) (token : Uuid) (role : Role) :
    (store.given token role).live t id =
      if token = id then (store.live t id).map (Session.withRole · role) else store.live t id := by
  unfold live
  rw [find?_given]
  cases hs : store.find? id with
  | none => split <;> rfl
  | some s =>
    rw [Option.map_some, find?_id hs]
    by_cases he : token = id
    · rw [if_pos he.symm, if_pos he]
      cases hexpired : s.isExpired t <;>
        simp [Option.filter, hexpired, Session.isExpired_withRole]
    · rw [if_neg he, if_neg (Ne.symm he)]

/-- A switch gives the live session of its token the role, also where it answers that there is none:
then there is none later either. -/
theorem live_switchRole (h : store.Distinct) (hnow : now ≤ t) (token : Uuid) (role : Role) :
    (store.switchRole now token role).2.live t id =
      if token = id then (store.live t id).map (Session.withRole · role) else store.live t id := by
  have hnone : store.live t token = none → store.live t id =
      if token = id then (store.live t id).map (Session.withRole · role) else store.live t id := by
    intro hlive
    split
    · next he => rw [← he, hlive, Option.map_none]
    · rfl
  cases hs : store.find? token with
  | none =>
    rw [switchRole_of_none hs]
    exact hnone (live_of_find?_eq_none hs t)
  | some s =>
    cases he : s.isExpired now with
    | true =>
      have hlater := Session.isExpired_mono hnow he
      rw [switchRole_of_expired hs he]
      exact (live_without_expired h hs hlater).trans (hnone (live_of_expired hs hlater))
    | false =>
      rw [switchRole_of_live hs he]
      exact live_given store token role

/-- A lifetime that reaches beyond the calendar starts no session. -/
theorem started_of_none (h : now.plusSeconds? store.ttl = none) (token : Uuid) (actor : Actor) :
    store.started now token actor = store := by
  unfold started create
  rw [h]

theorem mem_started_iff {expiry : Instant} (hexpiry : now.plusSeconds? store.ttl = some expiry)
    (token : Uuid) (actor : Actor) {s : Session} :
    s ∈ (store.started now token actor).sessions ↔
      (s ∈ store.sessions ∧ s.id ≠ token) ∨ s = ⟨token, actor, now, expiry⟩ := by
  unfold started create
  rw [hexpiry]
  simp only [List.mem_append, List.mem_singleton, mem_without]

/-- A started session is the live one of its token, if it does not start expired. -/
theorem live_started (h : store.Distinct) {expiry : Instant}
    (hexpiry : now.plusSeconds? store.ttl = some expiry) (token : Uuid) (actor : Actor) :
    (store.started now token actor).live t id =
      if token = id then
        (some ⟨token, actor, now, expiry⟩ : Option Session).filter fun s => !s.isExpired t
      else store.live t id := by
  apply Option.ext
  intro s
  rw [live_eq_some_iff (h.started now token actor), mem_started_iff hexpiry]
  split
  · next he =>
    subst he
    rw [Option.filter_eq_some_iff, Option.some.injEq, Bool.not_eq_true']
    constructor
    · rintro ⟨⟨-, hne⟩ | rfl, hid, hlive⟩
      · exact absurd hid hne
      · exact ⟨rfl, hlive⟩
    · rintro ⟨rfl, hlive⟩
      exact ⟨Or.inr rfl, rfl, hlive⟩
  · next hne =>
    rw [live_eq_some_iff h]
    constructor
    · rintro ⟨⟨hs, -⟩ | rfl, hid, hlive⟩
      · exact ⟨hs, hid, hlive⟩
      · exact absurd hid hne
    · rintro ⟨hs, hid, hlive⟩
      exact ⟨Or.inl ⟨hs, fun he => hne (he.symm.trans hid)⟩, hid, hlive⟩

end SessionStore

end AdminConsole
