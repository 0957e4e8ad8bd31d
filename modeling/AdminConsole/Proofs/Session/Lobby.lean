import AdminConsole.Proofs.List.Place
import AdminConsole.Proofs.Session.Live

/-! # Lookups side by side

`SessionStore.get` and `SessionStore.switchRole` take all their steps at once.
In the **lobby** many lookups are under way at the same time.  A get copies the
session, looks at the clock, and drops the token if the copy has expired; a
switch of the role reads and writes the session in one step, and drops an
expired one in another.  Between two steps of one lookup any others may take
theirs, and sessions start, end and are swept away, each in one step.

A run is a list of **events**, in any order and of any length, each with the
instant at which it happens.  `Lobby.shifted` says what an event can do to the
sessions, `Lobby.lookups_step` what it can do to the lookups,
`Lobby.switches_step` that the log has the roles that were given,
`Lobby.answered_of_turns` that a lookup is answered after three turns, and
`Lobby.run_alone` that a lookup whose steps nobody interrupts is the operation of
the store.
-/
namespace AdminConsole

/-- What a lookup is for. -/
inductive Query
  | get (id : Uuid)
  | switchRole (id : Uuid) (role : Role)
  deriving DecidableEq

/-- The token of which the lookup is. -/
def Query.id : Query → Uuid
  | get id | switchRole id _ => id

/-- The role that is to be given, with the token. -/
def Query.switch? : Query → Option (Uuid × Role)
  | get _ => none
  | switchRole id role => some (id, role)

/-- How far a lookup has come. -/
inductive Progress
  | asked
  /-- The session is copied, and its expiry not looked at yet. -/
  | copied (s : Session)
  /-- The session was found expired, and its token is not dropped yet. -/
  | expired
  | answered (outcome : Option Session)

/-- How many steps are left, at most. -/
def Progress.left : Progress → Nat
  | asked => 3
  | copied _ => 2
  | expired => 1
  | answered _ => 0

theorem Progress.left_le_three (progress : Progress) : progress.left ≤ 3 := by
  cases progress <;> simp only [left] <;> omega

theorem Progress.left_eq_zero_iff {progress : Progress} :
    progress.left = 0 ↔ ∃ outcome, progress = answered outcome := by
  cases progress <;> simp [left]

/-- A lookup under way. -/
structure Lookup where
  query : Query
  progress : Progress

/-- The role that the lookup has given, with the token: that of a switch that is answered a
session. -/
def Lookup.granted? (k : Lookup) : Option (Uuid × Role) :=
  match k.progress with
  | .answered (some _) => k.query.switch?
  | _ => none

/-- The sessions with the lookups that are under way; a lookup's number is its place among them.  A
log, oldest first, keeps the roles that were given, each with its token. -/
structure Lobby where
  store : SessionStore
  lookups : List Lookup
  switches : List (Uuid × Role)

namespace Lobby

/-- What can happen in the lobby, and when. -/
inductive Event
  | create (now : Instant) (id : Uuid) (actor : Actor)
  | remove (now : Instant) (id : Uuid)
  | purge (now : Instant)
  | ask (now : Instant) (query : Query)
  /-- A lookup takes its next step. -/
  | turn (now : Instant) (number : Nat)
  deriving DecidableEq

/-- The instant of the event. -/
def Event.now : Event → Instant
  | create now _ _ | remove now _ | purge now | ask now _ | turn now _ => now

/-! ## Steps -/

/-- A lobby without sessions and lookups. -/
def opened (ttl : Int) : Lobby where
  store := { ttl := ttl, sessions := [] }
  lookups := []
  switches := []

/-- Puts a lookup's new state in its place. -/
def put (l : Lobby) (number : Nat) (k : Lookup) : Lobby :=
  { l with lookups := l.lookups.set number k }

/-- A lookup takes its next step. -/
def take (l : Lobby) (number : Nat) (now : Instant) : Lookup → Lobby
  | ⟨query, .asked⟩ =>
    match l.store.find? query.id with
    | none => l.put number ⟨query, .answered none⟩
    | some s =>
      match query with
      | .get _ => l.put number ⟨query, .copied s⟩
      | .switchRole id role =>
        if s.isExpired now then l.put number ⟨query, .expired⟩
        else
          { store := l.store.given id role
            lookups := l.lookups.set number ⟨query, .answered (some (s.withRole role))⟩
            switches := l.switches ++ [(id, role)] }
  | ⟨query, .copied s⟩ =>
    if s.isExpired now then l.put number ⟨query, .expired⟩
    else l.put number ⟨query, .answered (some s)⟩
  | ⟨query, .expired⟩ =>
    { store := l.store.without query.id
      lookups := l.lookups.set number ⟨query, .answered none⟩
      switches := l.switches }
  | ⟨_, .answered _⟩ => l

/-- One event. -/
def step (l : Lobby) : Event → Lobby
  | .create now id actor => { l with store := l.store.started now id actor }
  | .remove _ id => { l with store := (l.store.remove id).2 }
  | .purge now => { l with store := (l.store.purge now).2 }
  | .ask _ query => { l with lookups := l.lookups ++ [⟨query, .asked⟩] }
  | .turn now number =>
    match l.lookups[number]? with
    | some k => l.take number now k
    | none => l

/-- Events one after the other. -/
def run (l : Lobby) (events : List Event) : Lobby := events.foldl step l

@[simp] theorem run_nil (l : Lobby) : l.run [] = l := rfl

@[simp] theorem run_cons (l : Lobby) (e : Event) (events : List Event) :
    l.run (e :: events) = (l.step e).run events := rfl

theorem run_append (l : Lobby) (events more : List Event) :
    l.run (events ++ more) = (l.run events).run more := List.foldl_append

theorem run_concat (l : Lobby) (events : List Event) (e : Event) :
    l.run (events ++ [e]) = (l.run events).step e := run_append l events [e]

theorem step_turn {l : Lobby} {number : Nat} {k : Lookup} (hk : l.lookups[number]? = some k)
    (now : Instant) : l.step (.turn now number) = l.take number now k := by
  simp only [step, hk]

theorem step_turn_none {l : Lobby} {number : Nat} (hk : l.lookups[number]? = none)
    (now : Instant) : l.step (.turn now number) = l := by
  simp only [step, hk]

/-! ## What an event can do -/

/-- All that a step can make of a lookup, among the sessions that it finds. -/
inductive Advance (store : SessionStore) (now : Instant) : Lookup → Lookup → Prop
  | miss {query : Query} : store.find? query.id = none →
      Advance store now ⟨query, .asked⟩ ⟨query, .answered none⟩
  | copy {id : Uuid} {s : Session} : store.find? id = some s →
      Advance store now ⟨.get id, .asked⟩ ⟨.get id, .copied s⟩
  | meet {id : Uuid} {role : Role} {s : Session} : store.find? id = some s →
      s.isExpired now = true →
      Advance store now ⟨.switchRole id role, .asked⟩ ⟨.switchRole id role, .expired⟩
  | give {id : Uuid} {role : Role} {s : Session} : store.find? id = some s →
      s.isExpired now = false → Advance store now ⟨.switchRole id role, .asked⟩
        ⟨.switchRole id role, .answered (some (s.withRole role))⟩
  | expire {query : Query} {s : Session} : s.isExpired now = true →
      Advance store now ⟨query, .copied s⟩ ⟨query, .expired⟩
  | find {query : Query} {s : Session} : s.isExpired now = false →
      Advance store now ⟨query, .copied s⟩ ⟨query, .answered (some s)⟩
  | drop {query : Query} : Advance store now ⟨query, .expired⟩ ⟨query, .answered none⟩

/-- All that an event can make of the sessions and of the log. -/
inductive Shift (l : Lobby) : Event → SessionStore → List (Uuid × Role) → Prop
  | start {now : Instant} {id : Uuid} {actor : Actor} :
      Shift l (.create now id actor) (l.store.started now id actor) l.switches
  | remove {now : Instant} {id : Uuid} : Shift l (.remove now id) (l.store.without id) l.switches
  | purge {now : Instant} : Shift l (.purge now) (l.store.purge now).2 l.switches
  | ask {now : Instant} {query : Query} : Shift l (.ask now query) l.store l.switches
  | rest {now : Instant} {number : Nat} : Shift l (.turn now number) l.store l.switches
  | give {now : Instant} {number : Nat} {id : Uuid} {role : Role} {s : Session} :
      l.store.find? id = some s → s.isExpired now = false →
      Shift l (.turn now number) (l.store.given id role) (l.switches ++ [(id, role)])
  | drop {now : Instant} {number : Nat} {query : Query} :
      l.lookups[number]? = some ⟨query, .expired⟩ →
      Shift l (.turn now number) (l.store.without query.id) l.switches

/-- What a step makes of the sessions and of the lookup that takes it. -/
theorem taken (l : Lobby) {number : Nat} (now : Instant) {k : Lookup}
    (hk : l.lookups[number]? = some k) :
    Shift l (.turn now number) (l.take number now k).store (l.take number now k).switches ∧
      (((∃ outcome, k.progress = .answered outcome) ∧ l.take number now k = l) ∨
        ∃ k', Advance l.store now k k' ∧
          (l.take number now k).lookups = l.lookups.set number k' ∧
          ((∀ s, k.progress = .copied s → ∃ id, k.query = .get id) →
            (l.take number now k).switches = l.switches ++ k'.granted?.toList)) := by
  obtain ⟨query, progress⟩ := k
  cases progress with
  | asked =>
    cases hs : l.store.find? query.id with
    | none =>
      simp only [take, hs]
      exact ⟨Shift.rest, Or.inr ⟨_, Advance.miss hs, rfl, fun _ => (List.append_nil _).symm⟩⟩
    | some s =>
      cases query with
      | get id =>
        simp only [take, hs]
        exact ⟨Shift.rest, Or.inr ⟨_, Advance.copy hs, rfl, fun _ => (List.append_nil _).symm⟩⟩
      | switchRole id role =>
        cases he : s.isExpired now with
        | true =>
          simp only [take, hs, he, if_true]
          exact ⟨Shift.rest, Or.inr ⟨_, Advance.meet hs he, rfl, fun _ => (List.append_nil _).symm⟩⟩
        | false =>
          simp only [take, hs, he, Bool.false_eq_true, if_false]
          exact ⟨Shift.give hs he, Or.inr ⟨_, Advance.give hs he, rfl, fun _ => rfl⟩⟩
  | copied s =>
    cases he : s.isExpired now with
    | true =>
      simp only [take, he, if_true]
      exact ⟨Shift.rest, Or.inr ⟨_, Advance.expire he, rfl, fun _ => (List.append_nil _).symm⟩⟩
    | false =>
      simp only [take, he, Bool.false_eq_true, if_false]
      refine ⟨Shift.rest, Or.inr ⟨_, Advance.find he, rfl, fun hcopied => ?_⟩⟩
      obtain ⟨id, rfl⟩ := hcopied s rfl
      exact (List.append_nil _).symm
  | expired =>
    exact ⟨Shift.drop hk, Or.inr ⟨_, Advance.drop, rfl, fun _ => (List.append_nil _).symm⟩⟩
  | answered outcome => exact ⟨Shift.rest, Or.inl ⟨⟨outcome, rfl⟩, rfl⟩⟩

/-- **What an event does to the sessions.** -/
theorem shifted (l : Lobby) (e : Event) : Shift l e (l.step e).store (l.step e).switches := by
  cases e with
  | create now id actor => exact Shift.start
  | remove now id => exact Shift.remove
  | purge now => exact Shift.purge
  | ask now query => exact Shift.ask
  | turn now number =>
    cases hk : l.lookups[number]? with
    | none =>
      rw [step_turn_none hk]
      exact Shift.rest
    | some k =>
      rw [step_turn hk]
      exact (l.taken now hk).1

/-- **What an event does to the lookups.**  A lookup is the one that was there, or it is just asked,
or it has taken a step. -/
theorem lookups_step {l : Lobby} {e : Event} {number : Nat} {k' : Lookup}
    (h : (l.step e).lookups[number]? = some k') :
    l.lookups[number]? = some k' ∨
      (number = l.lookups.length ∧ k'.progress = .asked) ∨
      ∃ k, l.lookups[number]? = some k ∧ Advance l.store e.now k k' := by
  cases e with
  | ask now query =>
    have hasked : (l.lookups ++ [⟨query, .asked⟩])[number]? = some k' := h
    rw [List.getElem?_append] at hasked
    split at hasked
    · exact Or.inl hasked
    · next hlen =>
      have hnumber := (List.getElem?_eq_some_iff.mp hasked).1
      rw [List.length_singleton] at hnumber
      obtain rfl := List.mem_singleton.mp (List.mem_of_getElem? hasked)
      exact Or.inr (Or.inl ⟨by omega, rfl⟩)
  | turn now place =>
    cases hk : l.lookups[place]? with
    | none =>
      rw [step_turn_none hk] at h
      exact Or.inl h
    | some k =>
      rw [step_turn hk] at h
      rcases (l.taken now hk).2 with ⟨-, hsame⟩ | ⟨k'', hadvance, hlookups, -⟩
      · rw [hsame] at h
        exact Or.inl h
      · rw [hlookups, getElem?_set_eq_some hk] at h
        rcases h with ⟨rfl, rfl⟩ | ⟨-, h⟩
        · exact Or.inr (Or.inr ⟨k, hk, hadvance⟩)
        · exact Or.inl h
  | _ => exact Or.inl h

/-! ## The log -/

/-- Between the two lobbies a switch is answered a session. -/
def Grants (l l' : Lobby) (given : Uuid × Role) : Prop :=
  ∃ (number : Nat) (k k' : Lookup), l.lookups[number]? = some k ∧ k.granted? = none ∧
    l'.lookups[number]? = some k' ∧ k'.granted? = some given

theorem not_grants_of_same {l l' : Lobby} {given : Uuid × Role}
    (h : ∀ (number : Nat) (k : Lookup), l.lookups[number]? = some k →
      l'.lookups[number]? = some k) : ¬ Grants l l' given := by
  rintro ⟨number, k, k', hk, hnone, hk', hgranted⟩
  obtain rfl := Option.some.inj ((h number k hk).symm.trans hk')
  rw [hnone] at hgranted
  cases hgranted

/-- A lookup that takes a step has not given a role yet. -/
theorem Advance.granted?_eq_none {store : SessionStore} {now : Instant} {k k' : Lookup}
    (h : Advance store now k k') : k.granted? = none := by
  cases h <;> rfl

/-- **What an event does to the log.**  A role that a switch gives is entered in it, and nothing
else is. -/
theorem switches_step (l : Lobby)
    (hcopied : ∀ k ∈ l.lookups, ∀ s, k.progress = .copied s → ∃ id, k.query = .get id) (e : Event) :
    (∀ given, Grants l (l.step e) given → (l.step e).switches = l.switches ++ [given]) ∧
      ((∀ given, ¬ Grants l (l.step e) given) → (l.step e).switches = l.switches) := by
  have hrest : ∀ {l' : Lobby}, l'.switches = l.switches →
      (∀ (number : Nat) (k : Lookup), l.lookups[number]? = some k →
        l'.lookups[number]? = some k) →
      (∀ given, Grants l l' given → l'.switches = l.switches ++ [given]) ∧
        ((∀ given, ¬ Grants l l' given) → l'.switches = l.switches) := fun hlog hsame =>
    ⟨fun given hgiven => absurd hgiven (not_grants_of_same hsame), fun _ => hlog⟩
  cases e with
  | ask now query =>
    refine hrest rfl fun number k hk => ?_
    exact (List.getElem?_append_left (List.getElem?_eq_some_iff.mp hk).1).trans hk
  | turn now number =>
    cases hk : l.lookups[number]? with
    | none =>
      rw [step_turn_none hk]
      exact hrest rfl fun _ _ h => h
    | some k =>
      rw [step_turn hk]
      rcases (l.taken now hk).2 with ⟨-, hsame⟩ | ⟨k', hadvance, hlookups, hlog⟩
      · rw [hsame]
        exact hrest rfl fun _ _ h => h
      · have hk' : (l.take number now k).lookups[number]? = some k' := by
          rw [hlookups]
          exact (getElem?_set_eq_some hk).mpr (Or.inl ⟨rfl, rfl⟩)
        rw [hlog (hcopied k (List.mem_of_getElem? hk))]
        constructor
        · rintro given ⟨place, other, other', hother, hnone, hother', hgranted⟩
          rw [hlookups, getElem?_set_eq_some hk] at hother'
          rcases hother' with ⟨-, rfl⟩ | ⟨-, hsame⟩
          · rw [hgranted]
            rfl
          · obtain rfl := Option.some.inj (hother.symm.trans hsame)
            rw [hnone] at hgranted
            cases hgranted
        · intro hnone
          cases hgranted : k'.granted? with
          | none => exact List.append_nil _
          | some given =>
            exact absurd ⟨number, k, k', hk, hadvance.granted?_eq_none, hk', hgranted⟩
              (hnone given)
  | _ => exact hrest rfl fun _ _ h => h

/-! ## The end of a lookup -/

/-- A step is for the query that was asked, and brings its lookup nearer to the end. -/
theorem Advance.nearer {store : SessionStore} {now : Instant} {k k' : Lookup}
    (h : Advance store now k k') : k'.query = k.query ∧ k'.progress.left < k.progress.left := by
  cases h <;> exact ⟨rfl, by simp only [Progress.left]; omega⟩

/-- The lookup that takes a step. -/
def Event.turned? : Event → Option Nat
  | turn _ number => some number
  | _ => none

/-- How often a lookup is to take a step. -/
def turns (events : List Event) (number : Nat) : Nat :=
  (events.filterMap Event.turned?).count number

theorem turns_cons (e : Event) (events : List Event) (number : Nat) :
    turns (e :: events) number = turns [e] number + turns events number := by
  unfold turns
  rw [← List.count_append, ← List.filterMap_append, List.singleton_append]

theorem turns_turn (now : Instant) (number : Nat) : turns [.turn now number] number = 1 :=
  List.count_singleton_self

theorem turns_other {place number : Nat} (h : place ≠ number) (now : Instant) :
    turns [.turn now place] number = 0 :=
  List.count_eq_zero.mpr fun hmem => h (List.mem_singleton.mp hmem).symm

/-- A lookup stays what it was asked for.  No event takes it farther from its end, and every turn
of its own brings it nearer. -/
theorem nearer_step {l : Lobby} {number : Nat} {k : Lookup} (hk : l.lookups[number]? = some k)
    (e : Event) : ∃ progress, (l.step e).lookups[number]? = some ⟨k.query, progress⟩ ∧
      progress.left ≤ k.progress.left - turns [e] number := by
  cases e with
  | ask now query =>
    have hlt := (List.getElem?_eq_some_iff.mp hk).1
    exact ⟨k.progress, (List.getElem?_append_left hlt).trans hk, Nat.le_refl _⟩
  | turn now place =>
    by_cases hplace : place = number
    · subst place
      rw [turns_turn, step_turn hk]
      rcases (l.taken now hk).2 with ⟨hanswered, hsame⟩ | ⟨k', hadvance, hlookups, -⟩
      · rw [hsame]
        exact ⟨k.progress, hk, by rw [Progress.left_eq_zero_iff.mpr hanswered]⟩
      · obtain ⟨hquery, hleft⟩ := hadvance.nearer
        rw [hlookups, ← hquery]
        exact ⟨k'.progress, (getElem?_set_eq_some hk).mpr (Or.inl ⟨rfl, rfl⟩), by omega⟩
    · rw [turns_other hplace]
      refine ⟨k.progress, ?_, Nat.le_refl _⟩
      cases hother : l.lookups[place]? with
      | none =>
        rw [step_turn_none hother]
        exact hk
      | some other =>
        rw [step_turn hother]
        rcases (l.taken now hother).2 with ⟨-, hsame⟩ | ⟨k', -, hlookups, -⟩
        · rw [hsame]
          exact hk
        · rw [hlookups]
          exact (getElem?_set_eq_some hother).mpr (Or.inr ⟨fun he => hplace he.symm, hk⟩)
  | _ => exact ⟨k.progress, hk, Nat.le_refl _⟩

theorem nearer_run {l : Lobby} {number : Nat} {k : Lookup} (hk : l.lookups[number]? = some k)
    (events : List Event) : ∃ progress, (l.run events).lookups[number]? = some ⟨k.query, progress⟩ ∧
      progress.left ≤ k.progress.left - turns events number := by
  induction events generalizing l k with
  | nil => exact ⟨k.progress, hk, Nat.le_refl _⟩
  | cons e events ih =>
    obtain ⟨progress, hnext, hleft⟩ := nearer_step hk e
    obtain ⟨last, hlast, hnearer⟩ := ih hnext
    refine ⟨last, hlast, ?_⟩
    rw [turns_cons]
    dsimp only at hnearer
    omega

/-- **Three turns answer a lookup**, whatever happens between them. -/
theorem answered_of_turns {l : Lobby} {number : Nat} {k : Lookup}
    (hk : l.lookups[number]? = some k) {events : List Event} (hturns : 3 ≤ turns events number) :
    ∃ outcome, (l.run events).lookups[number]? = some ⟨k.query, .answered outcome⟩ := by
  obtain ⟨progress, hlast, hleft⟩ := nearer_run hk events
  have hthree := k.progress.left_le_three
  obtain ⟨outcome, rfl⟩ := Progress.left_eq_zero_iff.mp (show progress.left = 0 by omega)
  exact ⟨outcome, hlast⟩

/-! ## A lookup alone -/

/-- The events of one lookup from its beginning to its end, all at one instant. -/
def wholeLookup (query : Query) (number : Nat) (now : Instant) : List Event :=
  [.ask now query, .turn now number, .turn now number, .turn now number]

/-- What the store makes of a query. -/
def atOnce (store : SessionStore) (now : Instant) : Query → Option Session × SessionStore
  | .get id => store.get now id
  | .switchRole id role => store.switchRole now id role

/-- The newest lookup in the lobby, the lookups before it, and the sessions. -/
structure Newest (l : Lobby) (lookups : List Lookup) (k : Lookup) (store : SessionStore) : Prop where
  lookups : l.lookups = lookups ++ [k]
  store : l.store = store

namespace Newest

variable {l : Lobby} {lookups : List Lookup} {k : Lookup} {store : SessionStore}
  {now : Instant} {query : Query} {id : Uuid} {s : Session}

theorem step_eq (h : l.Newest lookups k store) :
    l.step (.turn now lookups.length) = l.take lookups.length now k := by
  refine step_turn ?_ now
  rw [h.lookups, List.getElem?_concat_length]

theorem set_eq (h : l.Newest lookups k store) (k' : Lookup) :
    l.lookups.set lookups.length k' = lookups ++ [k'] := by
  rw [h.lookups, List.set_append_right _ _ (Nat.le_refl _), Nat.sub_self, List.set_cons_zero]

theorem put (h : l.Newest lookups k store) (k' : Lookup) :
    (l.put lookups.length k').Newest lookups k' store := ⟨h.set_eq k', h.store⟩

/-- An answered lookup rests. -/
theorem rest {outcome : Option Session} (h : l.Newest lookups ⟨query, .answered outcome⟩ store) :
    (l.step (.turn now lookups.length)).Newest lookups ⟨query, .answered outcome⟩ store := by
  rw [h.step_eq]
  exact h

theorem miss (h : l.Newest lookups ⟨query, .asked⟩ store) (hs : store.find? query.id = none) :
    (l.step (.turn now lookups.length)).Newest lookups ⟨query, .answered none⟩ store := by
  obtain ⟨hlookups, rfl⟩ := h
  rw [step_eq ⟨hlookups, rfl⟩]
  simp only [take, hs]
  exact put ⟨hlookups, rfl⟩ _

theorem copy (h : l.Newest lookups ⟨.get id, .asked⟩ store) (hs : store.find? id = some s)
    (now : Instant) :
    (l.step (.turn now lookups.length)).Newest lookups ⟨.get id, .copied s⟩ store := by
  obtain ⟨hlookups, rfl⟩ := h
  rw [step_eq ⟨hlookups, rfl⟩]
  simp only [take, Query.id, hs]
  exact put ⟨hlookups, rfl⟩ _

theorem expire (h : l.Newest lookups ⟨query, .copied s⟩ store) (he : s.isExpired now = true) :
    (l.step (.turn now lookups.length)).Newest lookups ⟨query, .expired⟩ store := by
  rw [h.step_eq]
  simp only [take, he, if_true]
  exact h.put _

theorem find (h : l.Newest lookups ⟨query, .copied s⟩ store) (he : s.isExpired now = false) :
    (l.step (.turn now lookups.length)).Newest lookups ⟨query, .answered (some s)⟩ store := by
  rw [h.step_eq]
  simp only [take, he, Bool.false_eq_true, if_false]
  exact h.put _

theorem drop (h : l.Newest lookups ⟨query, .expired⟩ store) :
    (l.step (.turn now lookups.length)).Newest lookups ⟨query, .answered none⟩
      (store.without query.id) := by
  obtain ⟨hlookups, rfl⟩ := h
  rw [step_eq ⟨hlookups, rfl⟩]
  exact ⟨set_eq ⟨hlookups, rfl⟩ _, rfl⟩

theorem meet {role : Role} (h : l.Newest lookups ⟨.switchRole id role, .asked⟩ store)
    (hs : store.find? id = some s) (he : s.isExpired now = true) :
    (l.step (.turn now lookups.length)).Newest lookups ⟨.switchRole id role, .expired⟩ store := by
  obtain ⟨hlookups, rfl⟩ := h
  rw [step_eq ⟨hlookups, rfl⟩]
  simp only [take, Query.id, hs, he, if_true]
  exact put ⟨hlookups, rfl⟩ _

theorem give {role : Role} (h : l.Newest lookups ⟨.switchRole id role, .asked⟩ store)
    (hs : store.find? id = some s) (he : s.isExpired now = false) :
    (l.step (.turn now lookups.length)).Newest lookups
      ⟨.switchRole id role, .answered (some (s.withRole role))⟩ (store.given id role) := by
  obtain ⟨hlookups, rfl⟩ := h
  rw [step_eq ⟨hlookups, rfl⟩]
  simp only [take, Query.id, hs, he, Bool.false_eq_true, if_false]
  exact ⟨set_eq ⟨hlookups, rfl⟩ _, rfl⟩

end Newest

/-- **A lookup that nobody interrupts is the operation of the store**: it leaves the sessions that
the operation leaves, and is answered what the operation yields. -/
theorem run_alone (l : Lobby) (query : Query) (now : Instant) :
    (l.run (wholeLookup query l.lookups.length now)).Newest l.lookups
      ⟨query, .answered (atOnce l.store now query).1⟩ (atOnce l.store now query).2 := by
  have hasked : (l.step (.ask now query)).Newest l.lookups ⟨query, .asked⟩ l.store := ⟨rfl, rfl⟩
  simp only [wholeLookup, run_cons, run_nil]
  -- A lookup that ends early stands still when the turns that are left come.
  cases hs : l.store.find? query.id with
  | none =>
    have hmissed : atOnce l.store now query = (none, l.store) := by
      cases query with
      | get id => exact SessionStore.get_of_none hs now
      | switchRole id role => exact SessionStore.switchRole_of_none hs now role
    rw [hmissed]
    exact (hasked.miss hs).rest.rest
  | some s =>
    cases query with
    | get id =>
      change l.store.find? id = some s at hs
      have hcopied := hasked.copy hs now
      cases he : s.isExpired now with
      | true =>
        rw [atOnce, SessionStore.get_of_expired hs he]
        exact (hcopied.expire he).drop
      | false =>
        rw [atOnce, SessionStore.get_of_live hs he]
        exact (hcopied.find he).rest
    | switchRole id role =>
      change l.store.find? id = some s at hs
      cases he : s.isExpired now with
      | true =>
        rw [atOnce, SessionStore.switchRole_of_expired hs he]
        exact (hasked.meet hs he).drop.rest
      | false =>
        rw [atOnce, SessionStore.switchRole_of_live hs he]
        exact (hasked.give hs he).rest.rest

end Lobby

end AdminConsole
