import AdminConsole.Proofs.Session.Lobby
import Mathlib.Data.List.Induction

/-! # Sessions survive the lookups

Between the moment in which a lookup finds a session expired and the moment in
which it drops the token, anything may happen.  Nothing is lost by that, since
the expiry of a session never changes and no token is drawn twice: what a lookup
drops has expired (`Sound.expired`), and so no session is dropped that is not
over (`Held.held`), and whoever asks for one finds it (`Found.step`).  What is
over does not come back, as no lookup writes back what it has copied.  And the
session that is held always has the role that was given last (`Held.kept`), so
that a get which starts later copies that role or a newer one.
-/
namespace AdminConsole.Lobby

/-! ## What the events tell -/

/-- The session that the event starts. -/
def Event.started? (ttl : Int) : Event → Option Session
  | create now id actor => (now.plusSeconds? ttl).map fun expiry => ⟨id, actor, now, expiry⟩
  | _ => none

/-- The token that is drawn for a session. -/
def Event.drawn? : Event → Option Uuid
  | create _ id _ => some id
  | _ => none

/-- The clock has reached the instant. -/
def Reached (events : List Event) (t : Instant) : Prop := ∃ e ∈ events, t ≤ e.now

/-- The session was started. -/
def Started (ttl : Int) (events : List Event) (first : Session) : Prop :=
  ∃ e ∈ events, e.started? ttl = some first

/-- The session of the token was started, and ended after that. -/
def Ended (ttl : Int) (events : List Event) (id : Uuid) : Prop :=
  ∃ before now after, events = before ++ .remove now id :: after ∧
    ∃ first, Started ttl before first ∧ first.id = id

/-- The session of the token was ended after its start, or the clock has reached its expiry. -/
def Over (ttl : Int) (events : List Event) (id : Uuid) : Prop :=
  Ended ttl events id ∨
    ∃ first, Started ttl events first ∧ first.id = id ∧ Reached events first.expiresAt

/-- The clock never runs back, and no token is drawn twice. -/
structure Orderly (events : List Event) : Prop where
  clock : (events.map Event.now).Pairwise (· ≤ ·)
  fresh : (events.filterMap Event.drawn?).Nodup

/-- The roles that were given to the session of a token, oldest first. -/
def rolesOf (switches : List (Uuid × Role)) (id : Uuid) : List Role :=
  switches.filterMap fun x => if x.1 = id then some x.2 else none

/-- The session with the role that it was given last. -/
def current (switches : List (Uuid × Role)) (first : Session) : Session :=
  first.withRole ((rolesOf switches first.id).getLast?.getD first.actor.role)

variable {ttl : Int} {events : List Event} {e : Event} {id : Uuid} {t : Instant}
  {first other : Session}

theorem Orderly.of_append {more : List Event} (h : Orderly (events ++ more)) : Orderly events where
  clock := by
    have hclock := h.clock
    rw [List.map_append] at hclock
    exact (List.pairwise_append.mp hclock).1
  fresh := by
    have hfresh := h.fresh
    rw [List.filterMap_append] at hfresh
    exact hfresh.of_append_left

theorem Orderly.le (h : Orderly (events ++ [e])) (ht : Reached events t) : t ≤ e.now := by
  obtain ⟨earlier, hearlier, hle⟩ := ht
  have hclock := h.clock
  rw [List.map_append, List.pairwise_append] at hclock
  exact Instant.le_trans hle
    (hclock.2.2 _ (List.mem_map_of_mem hearlier) _ (List.mem_singleton_self e.now))

theorem reached_concat : Reached (events ++ [e]) t ↔ Reached events t ∨ t ≤ e.now := by
  simp only [Reached, List.mem_append, List.mem_singleton, or_and_right, exists_or,
    exists_eq_left]

theorem started_concat :
    Started ttl (events ++ [e]) first ↔ Started ttl events first ∨ e.started? ttl = some first := by
  simp only [Started, List.mem_append, List.mem_singleton, or_and_right, exists_or,
    exists_eq_left]

theorem ended_concat : Ended ttl (events ++ [e]) id ↔ Ended ttl events id ∨
    (∃ now, e = .remove now id) ∧ ∃ first, Started ttl events first ∧ first.id = id := by
  constructor
  · rintro ⟨before, now, after, hsplit, hfirst⟩
    rcases concat_eq_append_cons_iff.mp hsplit with ⟨-, rfl, rfl⟩ | ⟨shorter, -, rfl⟩
    · exact Or.inr ⟨⟨now, rfl⟩, hfirst⟩
    · exact Or.inl ⟨before, now, shorter, rfl, hfirst⟩
  · rintro (⟨before, now, after, rfl, hfirst⟩ | ⟨⟨now, rfl⟩, hfirst⟩)
    · exact ⟨before, now, after ++ [e], by simp, hfirst⟩
    · exact ⟨events, now, [], rfl, hfirst⟩

/-- What is over stays over. -/
theorem Over.concat (h : Over ttl events id) (e : Event) : Over ttl (events ++ [e]) id := by
  rcases h with h | ⟨first, hstarted, hid, hreached⟩
  · exact Or.inl (ended_concat.mpr (Or.inl h))
  · exact Or.inr ⟨first, started_concat.mpr (Or.inl hstarted), hid,
      reached_concat.mpr (Or.inl hreached)⟩

theorem Event.drawn?_of_started? (h : e.started? ttl = some first) : e.drawn? = some first.id := by
  cases e with
  | create now id actor =>
    obtain ⟨expiry, -, rfl⟩ := Option.map_eq_some_iff.mp h
    rfl
  | _ => cases h

theorem Started.drawn (h : Started ttl events first) :
    first.id ∈ events.filterMap Event.drawn? := by
  obtain ⟨e, he, hstart⟩ := h
  exact List.mem_filterMap.mpr ⟨e, he, Event.drawn?_of_started? hstart⟩

/-- A token that is drawn now belongs to no session that was started before. -/
theorem id_ne_of_drawn (horderly : Orderly (events ++ [e])) (he : e.drawn? = some id)
    (h : Started ttl events first) : first.id ≠ id := by
  have hfresh := horderly.fresh
  rw [List.filterMap_append, List.filterMap_cons_some he, List.filterMap_nil] at hfresh
  exact (List.nodup_append.mp hfresh).2.2 first.id h.drawn id (List.mem_singleton_self id)

/-- One token, one session. -/
theorem Started.unique (horderly : Orderly events) (h : Started ttl events first)
    (h' : Started ttl events other) (hid : first.id = other.id) : first = other := by
  induction events using List.reverseRecOn with
  | nil =>
    obtain ⟨e, he, -⟩ := h
    cases he
  | append_singleton events e ih =>
    rcases started_concat.mp h with h | h <;> rcases started_concat.mp h' with h' | h'
    · exact ih horderly.of_append h h'
    · exact absurd hid (id_ne_of_drawn horderly (Event.drawn?_of_started? h') h)
    · exact absurd hid.symm (id_ne_of_drawn horderly (Event.drawn?_of_started? h) h')
    · exact Option.some.inj (h.symm.trans h')

/-- What holds after the first events, and is kept by each one that follows, holds in the end. -/
theorem run_keeps {motive : List Event → Lobby → Prop} {before : List Event}
    (hstart : motive before ((opened ttl).run before))
    (hstep : ∀ events e, Orderly (events ++ [e]) → motive events ((opened ttl).run events) →
      motive (events ++ [e]) (((opened ttl).run events).step e))
    (after : List Event) (horderly : Orderly (before ++ after)) :
    motive (before ++ after) ((opened ttl).run (before ++ after)) := by
  induction after using List.reverseRecOn with
  | nil => rwa [List.append_nil]
  | append_singleton after e ih =>
    rw [← List.append_assoc] at horderly ⊢
    rw [run_concat]
    exact hstep (before ++ after) e horderly (ih horderly.of_append)

/-! ## What the store holds -/

variable {switches : List (Uuid × Role)} {role : Role}

theorem rolesOf_concat (switches : List (Uuid × Role)) (token : Uuid) (role : Role) (id : Uuid) :
    rolesOf (switches ++ [(token, role)]) id =
      rolesOf switches id ++ if token = id then [role] else [] := by
  unfold rolesOf
  rw [List.filterMap_append]
  split <;> simp_all

theorem current_concat (switches : List (Uuid × Role)) (token : Uuid) (role : Role)
    (first : Session) : current (switches ++ [(token, role)]) first =
      if first.id = token then (current switches first).withRole role
      else current switches first := by
  unfold current
  rw [rolesOf_concat]
  by_cases h : token = first.id
  · rw [if_pos h, if_pos h.symm, List.getLast?_concat]
    rfl
  · rw [if_neg h, if_neg (Ne.symm h), List.append_nil]

/-- The sessions that are held are those that were started, each with the role that it was given
last.  None is missing that is not over, and none is there that was ended. -/
structure Held (ttl : Int) (events : List Event) (store : SessionStore)
    (switches : List (Uuid × Role)) : Prop where
  lifetime : store.ttl = ttl
  distinct : store.Distinct
  kept : ∀ s ∈ store.sessions, ∃ first, Started ttl events first ∧ s = current switches first
  held : ∀ first, Started ttl events first → ¬ Over ttl events first.id →
    current switches first ∈ store.sessions
  gone : ∀ id, Ended ttl events id → ∀ s ∈ store.sessions, s.id ≠ id
  known : ∀ x ∈ switches, ∃ first, Started ttl events first ∧ first.id = x.1

namespace Held

variable {store : SessionStore} {now : Instant} {number : Nat} {s : Session}

theorem opened (ttl : Int) : Held ttl [] { ttl := ttl, sessions := [] } [] where
  lifetime := rfl
  distinct := List.nodup_nil
  kept s hs := by cases hs
  held first h := by
    obtain ⟨e, he, -⟩ := h
    cases he
  gone id _ s hs := by cases hs
  known x hx := by cases hx

/-- An event that drops sessions, if any, but only of what is over then. -/
theorem thin (h : Held ttl events store switches) (he : e.started? ttl = none)
    (p : Session → Bool)
    (hover : ∀ first, Started ttl events first → p (current switches first) = false →
      Over ttl (events ++ [e]) first.id)
    (hend : ∀ now token, e = .remove now token → ∀ s, p s = true → s.id ≠ token) :
    Held ttl (events ++ [e]) { store with sessions := store.sessions.filter p } switches where
  lifetime := h.lifetime
  distinct := h.distinct.filter p
  kept s hs := by
    obtain ⟨first, hstarted, rfl⟩ := h.kept s (List.mem_filter.mp hs).1
    exact ⟨first, started_concat.mpr (Or.inl hstarted), rfl⟩
  held first hstarted hlasts := by
    rcases started_concat.mp hstarted with hstarted | hnow
    · refine List.mem_filter.mpr
        ⟨h.held first hstarted fun hbefore => hlasts (hbefore.concat e), ?_⟩
      by_contra hp
      exact hlasts (hover first hstarted (Bool.eq_false_iff.mpr hp))
    · rw [he] at hnow
      cases hnow
  gone id hended s hs := by
    obtain ⟨hs, hp⟩ := List.mem_filter.mp hs
    rcases ended_concat.mp hended with hended | ⟨⟨now, rfl⟩, -⟩
    · exact h.gone id hended s hs
    · exact hend now id rfl s hp
  known x hx := by
    obtain ⟨first, hstarted, hid⟩ := h.known x hx
    exact ⟨first, started_concat.mpr (Or.inl hstarted), hid⟩

/-- An event that leaves the sessions alone. -/
theorem idle (h : Held ttl events store switches) (he : e.started? ttl = none)
    (hend : ∀ now token, e ≠ .remove now token) : Held ttl (events ++ [e]) store switches := by
  have hthin := h.thin he (fun _ => true) (fun first _ hp => by cases hp)
    (fun now token hremove => absurd hremove (hend now token))
  rwa [List.filter_true] at hthin

theorem start (h : Held ttl events store switches) {actor : Actor}
    (horderly : Orderly (events ++ [.create now id actor])) :
    Held ttl (events ++ [.create now id actor]) (store.started now id actor) switches := by
  have hold : ∀ first, Started ttl events first → first.id ≠ id := fun first hstarted =>
    id_ne_of_drawn horderly rfl hstarted
  have hended : ∀ token, Ended ttl (events ++ [.create now id actor]) token →
      Ended ttl events token := by
    intro token hended
    rcases ended_concat.mp hended with hended | ⟨⟨_, he⟩, -⟩
    · exact hended
    · cases he
  cases hexpiry : now.plusSeconds? ttl with
  | none =>
    rw [SessionStore.started_of_none (h.lifetime.symm ▸ hexpiry)]
    refine h.idle ?_ (by simp)
    simp only [Event.started?, hexpiry, Option.map_none]
  | some expiry =>
    have hstarts : Event.started? ttl (.create now id actor) = some ⟨id, actor, now, expiry⟩ := by
      simp only [Event.started?, hexpiry, Option.map_some]
    have hmem := fun s => SessionStore.mem_started_iff (h.lifetime.symm ▸ hexpiry) id actor (s := s)
    -- A token that was just drawn was given no role.
    have hnew : current switches ⟨id, actor, now, expiry⟩ = ⟨id, actor, now, expiry⟩ := by
      have hroles : rolesOf switches id = [] := by
        refine List.filterMap_eq_nil_iff.mpr fun x hx => if_neg ?_
        obtain ⟨first, hstarted, hid⟩ := h.known x hx
        exact hid ▸ hold first hstarted
      unfold current
      rw [hroles]
      rfl
    refine ⟨(SessionStore.started_ttl ..).trans h.lifetime, h.distinct.started now id actor,
      fun s hs => ?_, fun first hstarted hlasts => ?_, fun token htoken s hs => ?_,
      fun x hx => ?_⟩
    · rcases (hmem s).mp hs with ⟨hs, -⟩ | rfl
      · obtain ⟨first, hstarted, rfl⟩ := h.kept s hs
        exact ⟨first, started_concat.mpr (Or.inl hstarted), rfl⟩
      · exact ⟨_, started_concat.mpr (Or.inr hstarts), hnew.symm⟩
    · rw [hmem]
      rcases started_concat.mp hstarted with hstarted | hnow
      · exact Or.inl ⟨h.held first hstarted fun hbefore => hlasts (hbefore.concat _),
          hold first hstarted⟩
      · obtain rfl := Option.some.inj (hstarts.symm.trans hnow)
        exact Or.inr hnew
    · rcases (hmem s).mp hs with ⟨hs, -⟩ | rfl
      · exact h.gone token (hended token htoken) s hs
      · obtain ⟨before, _, after, rfl, first, ⟨e, he, hfirst⟩, hid⟩ := hended token htoken
        have hearlier := hold first ⟨e, List.mem_append_left _ he, hfirst⟩
        exact fun hsame => hearlier (hid.trans hsame.symm)
    · obtain ⟨first, hstarted, hid⟩ := h.known x hx
      exact ⟨first, started_concat.mpr (Or.inl hstarted), hid⟩

theorem give (h : Held ttl events store switches) (hs : store.find? id = some s) (role : Role) :
    Held ttl (events ++ [.turn now number]) (store.given id role) (switches ++ [(id, role)]) := by
  have hidle : Held ttl (events ++ [.turn now number]) store switches := h.idle rfl (by simp)
  refine ⟨hidle.lifetime, hidle.distinct.given id role, fun s' hs' => ?_,
    fun first hstarted hlasts => ?_, fun token hended s' hs' => ?_, fun x hx => ?_⟩
  · obtain ⟨s, hs, rfl⟩ := List.mem_map.mp hs'
    obtain ⟨first, hstarted, rfl⟩ := hidle.kept s hs
    exact ⟨first, hstarted, (current_concat switches id role first).symm⟩
  · rw [current_concat]
    exact List.mem_map.mpr ⟨_, hidle.held first hstarted hlasts, rfl⟩
  · obtain ⟨s, hs, rfl⟩ := List.mem_map.mp hs'
    have hne := hidle.gone token hended s hs
    split <;> exact hne
  · rcases List.mem_append.mp hx with hx | hx
    · exact hidle.known x hx
    · obtain ⟨first, hstarted, hfirst⟩ := hidle.kept s (SessionStore.find?_mem hs)
      obtain rfl := List.mem_singleton.mp hx
      have hid := SessionStore.find?_id hs
      rw [hfirst] at hid
      exact ⟨first, hstarted, hid⟩

/-- What an event makes of the sessions, if the lookups that are to drop a token are right. -/
theorem step {l : Lobby} (h : Held ttl events l.store l.switches)
    (hexpired : ∀ k ∈ l.lookups, k.progress = .expired → Over ttl events k.query.id)
    (horderly : Orderly (events ++ [e])) :
    Held ttl (events ++ [e]) (l.step e).store (l.step e).switches := by
  have hshift := l.shifted e
  generalize (l.step e).store = store, (l.step e).switches = switches at hshift ⊢
  cases hshift with
  | start => exact h.start horderly
  | remove =>
    refine h.thin rfl _ (fun first hstarted hp => Or.inl ?_) fun _ token he s hp => ?_
    · have hid : first.id = _ := not_not.mp (of_decide_eq_false hp)
      exact ended_concat.mpr (Or.inr ⟨⟨_, by rw [hid]⟩, first, hstarted, rfl⟩)
    · cases he
      exact of_decide_eq_true hp
  | purge =>
    refine h.thin rfl _ (fun first hstarted hp => Or.inr ?_) (by simp)
    have hexpiry := Session.isExpired_iff.mp ((Bool.not_eq_false_eq_eq_true _).mp hp)
    exact ⟨first, started_concat.mpr (Or.inl hstarted), rfl,
      reached_concat.mpr (Or.inr hexpiry)⟩
  | ask => exact h.idle rfl (by simp)
  | rest => exact h.idle rfl (by simp)
  | give hs hlive => exact h.give hs _
  | drop hk =>
    refine h.thin rfl _ (fun first hstarted hp => ?_) (by simp)
    have hid : first.id = _ := not_not.mp (of_decide_eq_false hp)
    rw [hid]
    exact (hexpired _ (List.mem_of_getElem? hk) rfl).concat _

/-- A role is given only to a session that was started. -/
theorem started_of_rolesOf (h : Held ttl events store switches)
    (hrole : role ∈ rolesOf switches id) : ∃ first, Started ttl events first ∧ first.id = id := by
  obtain ⟨x, hx, hgiven⟩ := List.mem_filterMap.mp hrole
  split at hgiven
  · next hid => exact hid ▸ h.known x hx
  · cases hgiven

/-- Whoever looks for a session that is not over finds it, with the role that it was given last. -/
theorem find?_eq (h : Held ttl events store switches) (hstarted : Started ttl events first)
    (hlasts : ¬ Over ttl events first.id) :
    store.find? first.id = some (current switches first) :=
  (SessionStore.find?_eq_some_iff h.distinct).mpr ⟨h.held first hstarted hlasts, rfl⟩

/-- Whoever finds the session of a token whose session is over, finds one that has expired. -/
theorem reached_of_over (h : Held ttl events store switches)
    (horderly : Orderly events) (hover : Over ttl events id) (hs : store.find? id = some s) :
    Reached events s.expiresAt := by
  have hmem := SessionStore.find?_mem hs
  have hid := SessionStore.find?_id hs
  rcases hover with hended | ⟨first, hstarted, hfirst, hreached⟩
  · exact absurd hid (h.gone id hended s hmem)
  · obtain ⟨other, hother, rfl⟩ := h.kept s hmem
    obtain rfl := Started.unique horderly hstarted hother (hfirst.trans hid.symm)
    exact hreached

end Held

/-! ## The lookups under way -/

/-- The lobby after events: what is held, and what the lookups have found. -/
structure Sound (ttl : Int) (events : List Event) (l : Lobby) : Prop where
  held : Held ttl events l.store l.switches
  copied : ∀ k ∈ l.lookups, ∀ s, k.progress = .copied s → k.query = .get s.id ∧
    ∃ first, Started ttl events first ∧ s = first.withRole s.actor.role
  expired : ∀ k ∈ l.lookups, k.progress = .expired → Over ttl events k.query.id

namespace Sound

variable {l : Lobby} {s : Session}

theorem opened (ttl : Int) : Sound ttl [] (opened ttl) where
  held := Held.opened ttl
  copied k hk := by cases hk
  expired k hk := by cases hk

/-- A session that was started and has expired by now is over, whatever role it has. -/
theorem over_of_expired {role : Role} (hstarted : Started ttl events first)
    (hid : (first.withRole role).id = id)
    (hexpired : (first.withRole role).isExpired e.now = true) :
    Over ttl (events ++ [e]) id :=
  Or.inr ⟨first, started_concat.mpr (Or.inl hstarted), hid,
    reached_concat.mpr (Or.inr (Session.isExpired_iff.mp hexpired))⟩

theorem step (h : Sound ttl events l) (horderly : Orderly (events ++ [e])) :
    Sound ttl (events ++ [e]) (l.step e) where
  held := h.held.step h.expired horderly
  copied k' hk' s hs := by
    obtain ⟨number, hnumber⟩ := List.mem_iff_getElem?.mp hk'
    rcases lookups_step hnumber with hold | ⟨-, hasked⟩ | ⟨k, hk, hadvance⟩
    · obtain ⟨hquery, first, hstarted, hsame⟩ := h.copied k' (List.mem_of_getElem? hold) s hs
      exact ⟨hquery, first, started_concat.mpr (Or.inl hstarted), hsame⟩
    · rw [hasked] at hs
      cases hs
    · cases hadvance with
      | copy hfind =>
        cases hs
        obtain ⟨first, hstarted, rfl⟩ := h.held.kept s (SessionStore.find?_mem hfind)
        exact ⟨congrArg Query.get (SessionStore.find?_id hfind).symm, first,
          started_concat.mpr (Or.inl hstarted), rfl⟩
      | _ => cases hs
  expired k' hk' hs := by
    obtain ⟨number, hnumber⟩ := List.mem_iff_getElem?.mp hk'
    rcases lookups_step hnumber with hold | ⟨-, hasked⟩ | ⟨k, hk, hadvance⟩
    · exact (h.expired k' (List.mem_of_getElem? hold) hs).concat e
    · rw [hasked] at hs
      cases hs
    · cases hadvance with
      | meet hfind hexpired =>
        obtain ⟨first, hstarted, rfl⟩ := h.held.kept _ (SessionStore.find?_mem hfind)
        exact over_of_expired hstarted (SessionStore.find?_id hfind) hexpired
      | expire hexpired =>
        obtain ⟨hquery, first, hstarted, hsame⟩ := h.copied _ (List.mem_of_getElem? hk) _ rfl
        have hid : _ = Query.id _ := (congrArg Query.id hquery).symm
        rw [hsame] at hexpired hid
        exact over_of_expired hstarted hid hexpired
      | _ => cases hs

theorem run (ttl : Int) {events : List Event} (horderly : Orderly events) :
    Sound ttl events ((Lobby.opened ttl).run events) :=
  run_keeps (motive := Sound ttl) (opened ttl) (fun _ _ ho h => h.step ho) events horderly

end Sound

/-! ## Lookups that start later -/

/-- From a number on, no lookup of the token has found a session, and none will. -/
structure Barred (events : List Event) (l : Lobby) (number : Nat) (id : Uuid) : Prop where
  unanswered : ∀ place k, number ≤ place → l.lookups[place]? = some k → k.query.id = id →
    ∀ s, k.progress ≠ .answered (some s)
  stale : ∀ place k, number ≤ place → l.lookups[place]? = some k → k.query.id = id →
    ∀ s, k.progress = .copied s → Reached events s.expiresAt

theorem Barred.step {l : Lobby} {number : Nat} (h : Barred events l number id)
    (hsound : Sound ttl events l) (horderly : Orderly (events ++ [e]))
    (hover : Over ttl events id) :
    Barred (events ++ [e]) (l.step e) number id where
  unanswered place k' hplace hk' hid s hs := by
    rcases lookups_step hk' with hold | ⟨-, hasked⟩ | ⟨k, hk, hadvance⟩
    · exact h.unanswered place k' hplace hold hid s hs
    · rw [hasked] at hs
      cases hs
    · -- Whoever would be answered so has met a session that is not expired.
      cases hadvance with
      | give hfind hlive =>
        subst hid
        have hreached := hsound.held.reached_of_over horderly.of_append hover hfind
        exact Session.isExpired_eq_false_iff.mp hlive (horderly.le hreached)
      | find hlive =>
        have hreached := h.stale place _ hplace hk hid _ rfl
        exact Session.isExpired_eq_false_iff.mp hlive (horderly.le hreached)
      | _ => cases hs
  stale place k' hplace hk' hid s hs := by
    rw [reached_concat]
    rcases lookups_step hk' with hold | ⟨-, hasked⟩ | ⟨k, hk, hadvance⟩
    · exact Or.inl (h.stale place k' hplace hold hid s hs)
    · rw [hasked] at hs
      cases hs
    · cases hadvance with
      | copy hfind =>
        cases hs
        subst hid
        exact Or.inl (hsound.held.reached_of_over horderly.of_append hover hfind)
      | _ => cases hs

/-- From a number on, no lookup of the token is answered none as long as its session lasts. -/
def Found (ttl : Int) (events : List Event) (l : Lobby) (number : Nat) (id : Uuid) : Prop :=
  ∀ place k, number ≤ place → l.lookups[place]? = some k → k.query.id = id →
    k.progress = .answered none → Over ttl events id

theorem Found.step {l : Lobby} {number : Nat} (h : Found ttl events l number first.id)
    (hsound : Sound ttl events l) (hstarted : Started ttl events first) (e : Event) :
    Found ttl (events ++ [e]) (l.step e) number first.id := by
  intro place k' hplace hk' hid hnone
  rcases lookups_step hk' with hold | ⟨-, hasked⟩ | ⟨k, hk, hadvance⟩
  · exact (h place k' hplace hold hid hnone).concat e
  · rw [hasked] at hnone
    cases hnone
  · -- A lookup ends so where it misses its token, or drops it.
    cases hadvance with
    | miss hmissed =>
      by_contra hlasts
      have hfound := hsound.held.find?_eq hstarted fun hover => hlasts (hover.concat e)
      rw [← hid] at hfound
      cases hmissed.symm.trans hfound
    | drop =>
      rw [← hid]
      exact (hsound.expired _ (List.mem_of_getElem? hk) rfl).concat e
    | _ => cases hnone

/-- The token's session was given the role, and from a number on every get has seen that role or
one that it was given later. -/
def Seen (l : Lobby) (number : Nat) (id : Uuid) (older : List Role) (role : Role) : Prop :=
  ∃ newer, rolesOf l.switches id = older ++ role :: newer ∧
    ∀ place k, number ≤ place → l.lookups[place]? = some k → k.query = .get id →
      ∀ s, k.progress = .copied s ∨ k.progress = .answered (some s) → s.actor.role ∈ role :: newer

/-- An event gives the session of a token one role at most. -/
theorem rolesOf_step (l : Lobby) (e : Event) (id : Uuid) :
    ∃ more, rolesOf (l.step e).switches id = rolesOf l.switches id ++ more := by
  have hshift := l.shifted e
  generalize (l.step e).store = store, (l.step e).switches = switches at hshift ⊢
  cases hshift with
  | give _ _ => exact ⟨_, rolesOf_concat ..⟩
  | _ => exact ⟨[], (List.append_nil _).symm⟩

theorem Seen.step {l : Lobby} {number : Nat} {older : List Role} (h : Seen l number id older role)
    (hsound : Sound ttl events l) (e : Event) : Seen (l.step e) number id older role := by
  obtain ⟨newer, hroles, hseen⟩ := h
  obtain ⟨more, hmore⟩ := rolesOf_step l e id
  refine ⟨newer ++ more, by rw [hmore, hroles]; simp, fun place k' hplace hk' hquery s hs => ?_⟩
  rw [← List.cons_append]
  refine List.mem_append_left more ?_
  rcases lookups_step hk' with hold | ⟨-, hasked⟩ | ⟨k, hk, hadvance⟩
  · exact hseen place k' hplace hold hquery s hs
  · rw [hasked] at hs
    rcases hs with hs | hs <;> cases hs
  · cases hadvance with
    | copy hfind =>
      cases hquery
      obtain rfl : _ = s := by simpa using hs
      -- What is copied has the role that was given last.
      obtain ⟨first, -, hfirst⟩ := hsound.held.kept _ (SessionStore.find?_mem hfind)
      have hid := SessionStore.find?_id hfind
      rw [hfirst] at hid ⊢
      show (rolesOf l.switches first.id).getLast?.getD _ ∈ _
      rw [show first.id = id from hid, hroles, List.getLast?_append_cons,
        List.getLast?_eq_some_getLast (List.cons_ne_nil role newer), Option.getD_some]
      exact List.getLast_mem _
    | find hlive =>
      obtain rfl : _ = s := by simpa using hs
      exact hseen place _ hplace hk hquery _ (Or.inl rfl)
    | give => cases hquery
    | _ => rcases hs with hs | hs <;> cases hs

/-- There is no lookup with a number that is not given yet. -/
theorem lookups_ne_some {l : Lobby} {number place : Nat} (hnumber : l.lookups.length ≤ number)
    (hplace : number ≤ place) (k : Lookup) : l.lookups[place]? ≠ some k := by
  intro hk
  have hlt := (List.getElem?_eq_some_iff.mp hk).1
  omega

theorem Barred.run {number : Nat} {before : List Event} (hover : Over ttl before id)
    (hnumber : ((opened ttl).run before).lookups.length ≤ number) (after : List Event)
    (horderly : Orderly (before ++ after)) : Over ttl (before ++ after) id ∧
      Barred (before ++ after) ((opened ttl).run (before ++ after)) number id := by
  refine run_keeps (motive := fun events l => Over ttl events id ∧ Barred events l number id)
    ⟨hover, ?_, ?_⟩ ?_ after horderly
  · exact fun place k hplace hk => absurd hk (lookups_ne_some hnumber hplace k)
  · exact fun place k hplace hk => absurd hk (lookups_ne_some hnumber hplace k)
  · rintro events e ho ⟨hover, hbarred⟩
    exact ⟨hover.concat e, hbarred.step (Sound.run ttl ho.of_append) ho hover⟩

theorem Found.run {number : Nat} {before : List Event} (hstarted : Started ttl before first)
    (hnumber : ((opened ttl).run before).lookups.length ≤ number) (after : List Event)
    (horderly : Orderly (before ++ after)) : Started ttl (before ++ after) first ∧
      Found ttl (before ++ after) ((opened ttl).run (before ++ after)) number first.id := by
  refine run_keeps (motive := fun events l =>
    Started ttl events first ∧ Found ttl events l number first.id) ⟨hstarted, ?_⟩ ?_ after horderly
  · exact fun place k hplace hk => absurd hk (lookups_ne_some hnumber hplace k)
  · rintro events e ho ⟨hstarted, hfound⟩
    exact ⟨started_concat.mpr (Or.inl hstarted),
      hfound.step (Sound.run ttl ho.of_append) hstarted e⟩

theorem Seen.run {number : Nat} {before : List Event} {older : List Role}
    (hroles : rolesOf ((opened ttl).run before).switches id = older ++ [role])
    (hnumber : ((opened ttl).run before).lookups.length ≤ number) (after : List Event)
    (horderly : Orderly (before ++ after)) :
    Seen ((opened ttl).run (before ++ after)) number id older role := by
  refine run_keeps (motive := fun _ l => Seen l number id older role) ⟨[], hroles, ?_⟩ ?_ after
    horderly
  · exact fun place k hplace hk => absurd hk (lookups_ne_some hnumber hplace k)
  · intro events e ho hseen
    exact hseen.step (Sound.run ttl ho.of_append) e

/-- **Sessions survive the lookups.**  However lookups, starts, ends and purges interleave, while
the clock never runs back and no token is drawn twice:

* a session that was started and is not over is held, with the role that it was given last;
* a role counts as given from the event on with which the switch to it is answered a session, and no
  other role does;
* a lookup is answered, at the latest with its third turn;
* a lookup that is asked after the session of its token is over is never answered a session;
* a lookup that is asked after the session of its token was started is answered none only if that
  session is over;
* a get that is asked after a role was given sees that role or one that was given after it, and is
  answered none only if the session is over. -/
theorem sessions_survive_lookups (ttl : Int) (events : List Event) (horderly : Orderly events) :
    (∀ first, Started ttl events first → ¬ Over ttl events first.id →
      ((opened ttl).run events).store.find? first.id =
        some (current ((opened ttl).run events).switches first)) ∧
    (∀ before e after, events = before ++ e :: after →
      let l := (opened ttl).run before
      let l' := (opened ttl).run (before ++ [e])
      (∀ given, Grants l l' given → l'.switches = l.switches ++ [given]) ∧
        ((∀ given, ¬ Grants l l' given) → l'.switches = l.switches)) ∧
    ∀ before after, events = before ++ after →
      (∀ number k, ((opened ttl).run before).lookups[number]? = some k →
        3 ≤ turns after number → ∃ outcome,
          ((opened ttl).run events).lookups[number]? = some ⟨k.query, .answered outcome⟩) ∧
      ∀ number k, ((opened ttl).run before).lookups.length ≤ number →
      ((opened ttl).run events).lookups[number]? = some k →
      (Over ttl before k.query.id → ∀ s, k.progress ≠ .answered (some s)) ∧
      (∀ first, Started ttl before first → first.id = k.query.id →
        k.progress = .answered none → Over ttl events k.query.id) ∧
      ∀ id older role newer, k.query = .get id →
        rolesOf ((opened ttl).run before).switches id = older ++ [role] →
        rolesOf ((opened ttl).run events).switches id = older ++ role :: newer →
        (∀ s, k.progress = .copied s ∨ k.progress = .answered (some s) →
          s.actor.role ∈ role :: newer) ∧
        (k.progress = .answered none → Over ttl events id) := by
  refine ⟨fun first hstarted hlasts => (Sound.run ttl horderly).held.find?_eq hstarted hlasts,
    ?_, ?_⟩
  · rintro before e after rfl
    have hsound : Sound ttl before ((opened ttl).run before) := Sound.run ttl horderly.of_append
    rw [run_concat]
    exact switches_step _ (fun k hk s hs => ⟨s.id, (hsound.copied k hk s hs).1⟩) e
  rintro before after rfl
  refine ⟨fun number k hk hturns => ?_, fun number k hnumber hk => ?_⟩
  · rw [run_append]
    exact answered_of_turns hk hturns
  have hmet : ∀ first, Started ttl before first → first.id = k.query.id →
      k.progress = .answered none → Over ttl (before ++ after) k.query.id := by
    intro first hstarted hid hnone
    obtain ⟨-, hfound⟩ := Found.run hstarted hnumber after horderly
    rw [← hid]
    exact hfound number k (Nat.le_refl number) hk hid.symm hnone
  refine ⟨fun hover => ?_, hmet, fun id older role newer hquery hgiven hroles => ⟨fun s hs => ?_,
    fun hnone => ?_⟩⟩
  · obtain ⟨-, hbarred⟩ := Barred.run hover hnumber after horderly
    exact hbarred.unanswered number k (Nat.le_refl number) hk rfl
  · obtain ⟨newer', hroles', hseen⟩ := Seen.run hgiven hnumber after horderly
    obtain rfl : newer' = newer := by
      have hsame := List.append_cancel_left (hroles'.symm.trans hroles)
      exact (List.cons.inj hsame).2
    exact hseen number k (Nat.le_refl number) hk hquery s hs
  · obtain ⟨first, hstarted, hid⟩ :=
      (Sound.run ttl horderly.of_append).held.started_of_rolesOf
        (hgiven ▸ List.mem_append_right older (List.mem_singleton_self role))
    rw [hquery] at hmet
    exact hmet first hstarted hid hnone

/-- With a lifetime of a minute: a get copies a session, finds it expired, and drops its token late;
meanwhile another session is given a role, and both are asked for again. -/
def sampleEvents : List Event :=
  let id (n : Nat) : Uuid := .ofNat n
  let second (n : Int) : Instant := ⟨n, 0⟩
  [.create (second 0) (id 1) ⟨id 11, .support⟩,
    .create (second 30) (id 2) ⟨id 12, .admin⟩,
    .ask (second 59) (.get (id 1)),
    .turn (second 59) 0,
    .ask (second 60) (.switchRole (id 2) .moderator),
    .turn (second 60) 1,
    .turn (second 60) 0,
    .ask (second 61) (.get (id 2)),
    .turn (second 61) 2,
    .ask (second 62) (.get (id 1)),
    .turn (second 62) 3,
    .turn (second 62) 0,
    .turn (second 63) 2,
    .turn (second 63) 3,
    .turn (second 64) 3]

/-- The second session is never over. -/
theorem not_over_sampleEvents : ¬ Over 60 sampleEvents (.ofNat 2) := by
  have hids : ∀ e ∈ sampleEvents, ∀ first ∈ e.started? 60, first.id = .ofNat 2 →
      ∀ e' ∈ sampleEvents, ¬ first.expiresAt ≤ e'.now := by decide
  rintro (⟨before, now, after, hsplit, -⟩ | ⟨first, ⟨e, he, hstart⟩, hid, e', he', hle⟩)
  · have hremove : Event.remove now (.ofNat 2) ∈ sampleEvents := by
      rw [hsplit]
      exact List.mem_append_right before (List.mem_cons_self ..)
    simp [sampleEvents] at hremove
  · exact hids e he first hstart hid e' he' hle

/-- The second session outlasts the run.  The get that copied the first one in time is answered with
its third turn; the get of the first one that is asked last is answered none, and that session is
over; the get of the second one is answered a session, with the role that was given. -/
theorem sessions_survive_lookups_sampleEvents :
    Orderly sampleEvents ∧
      ((opened 60).run sampleEvents).store.find? (.ofNat 2) =
        some ⟨.ofNat 2, ⟨.ofNat 12, .moderator⟩, ⟨30, 0⟩, ⟨90, 0⟩⟩ ∧
      (∃ outcome, ((opened 60).run sampleEvents).lookups[0]? =
        some ⟨.get (.ofNat 1), .answered outcome⟩) ∧
      (∃ k, ((opened 60).run sampleEvents).lookups[3]? = some k ∧ k.progress = .answered none ∧
        (∀ s, k.progress ≠ .answered (some s)) ∧ Over 60 sampleEvents (.ofNat 1)) ∧
      ∃ s, ((opened 60).run sampleEvents).lookups[2]? =
        some ⟨.get (.ofNat 2), .answered (some s)⟩ ∧ s.actor.role ∈ [Role.moderator] := by
  have horderly : Orderly sampleEvents := ⟨by decide, by decide⟩
  obtain ⟨hheld, -, hlater⟩ := sessions_survive_lookups 60 sampleEvents horderly
  refine ⟨horderly, ?_, ?_, ⟨⟨.get (.ofNat 1), .answered none⟩, rfl, rfl, ?_⟩, _, rfl, ?_⟩
  · exact hheld ⟨.ofNat 2, ⟨.ofNat 12, .admin⟩, ⟨30, 0⟩, ⟨90, 0⟩⟩
      ⟨_, List.mem_cons_of_mem _ (List.mem_cons_self ..), by decide⟩ not_over_sampleEvents
  · obtain ⟨hanswered, -⟩ := hlater (sampleEvents.take 3) (sampleEvents.drop 3) rfl
    exact hanswered 0 ⟨.get (.ofNat 1), .asked⟩ rfl (by decide)
  · obtain ⟨-, hasked⟩ := hlater (sampleEvents.take 9) (sampleEvents.drop 9) rfl
    obtain ⟨hunanswered, hmissed, -⟩ :=
      hasked 3 ⟨.get (.ofNat 1), .answered none⟩ (by decide) rfl
    have hstarted : Started 60 (sampleEvents.take 9)
        ⟨.ofNat 1, ⟨.ofNat 11, .support⟩, ⟨0, 0⟩, ⟨60, 0⟩⟩ :=
      ⟨_, List.mem_cons_self .., by decide⟩
    exact ⟨hunanswered (Or.inr ⟨_, hstarted, rfl, .turn ⟨60, 0⟩ 1, by decide, by decide⟩),
      hmissed _ hstarted rfl rfl⟩
  · obtain ⟨-, hasked⟩ := hlater (sampleEvents.take 7) (sampleEvents.drop 7) rfl
    obtain ⟨-, -, hrole⟩ := hasked 2 _ (by decide) rfl
    obtain ⟨hseen, -⟩ := hrole (.ofNat 2) [] .moderator [] rfl (by decide) (by decide)
    exact hseen _ (Or.inr rfl)

end AdminConsole.Lobby
