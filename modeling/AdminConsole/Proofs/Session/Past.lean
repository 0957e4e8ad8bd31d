import AdminConsole.Proofs.List.Place
import AdminConsole.Proofs.Session.Live

/-! # The session store as a map with expiry

The store is called one call after the other, and the clock never runs back.
What it answers is then told by the past alone, that is by the calls so far and
their answers: a token has the session that was started for it last, unless the
session was ended since, with the role that it was given last.  This holds until
the session expires, and no role that is given moves its expiry.

The past knows nothing of dropped sessions.  `Follows` ties it to the store: at
every instant that the clock has not passed, the live session of each token is
the one of which the past tells.  A purge is no news, so calls that differ in
their purges only have the same answers.
-/
namespace AdminConsole

/-- A call on the store, with the reading of the clock that it takes. -/
inductive StoreCall
  | create (now : Instant) (id : Uuid) (actor : Actor)
  | get (now : Instant) (id : Uuid)
  | switchRole (now : Instant) (id : Uuid) (role : Role)
  | remove (id : Uuid)
  | purge (now : Instant)
  deriving DecidableEq

namespace StoreCall

/-- The reading of the clock that the call takes; an end of a session takes none. -/
def reading? : StoreCall → Option Instant
  | create now _ _ | get now _ | switchRole now _ _ | purge now => some now
  | remove _ => none

/-- The call is a purge. -/
def isPurge : StoreCall → Bool
  | purge _ => true
  | _ => false

theorem readings_cons (c : StoreCall) (rest : List StoreCall) :
    (c :: rest).filterMap reading? = c.reading?.toList ++ rest.filterMap reading? := by
  rw [List.filterMap_cons]
  cases c.reading? <;> rfl

end StoreCall

/-- What the store answers. -/
inductive StoreAnswer
  | created (outcome : Except Abort Session)
  | found (session : Option Session)
  | switched (session : Option Session)
  | removed (existed : Bool)
  | purged (count : Nat)

/-- A call with its answer. -/
structure Exchange where
  call : StoreCall
  answer : StoreAnswer

namespace Exchange

/-- The session that was started for the token. -/
def started? (id : Uuid) : Exchange → Option Session
  | ⟨.create _ token _, .created (.ok s)⟩ => if token = id then some s else none
  | _ => none

/-- The role that the token's session was given. -/
def given? (id : Uuid) : Exchange → Option Role
  | ⟨.switchRole _ token role, .switched (some _)⟩ => if token = id then some role else none
  | _ => none

/-- What a lookup or a switch of the role was answered. -/
def looked? : Exchange → Option (Option Session)
  | ⟨_, .found s⟩ | ⟨_, .switched s⟩ => some s
  | _ => none

end Exchange

namespace SessionStore

/-- Answers a call. -/
def serve (store : SessionStore) : StoreCall → StoreAnswer × SessionStore
  | .create now id actor =>
    (.created ((store.create now id actor).map Prod.fst), store.started now id actor)
  | .get now id => (.found (store.get now id).1, (store.get now id).2)
  | .switchRole now id role =>
    (.switched (store.switchRole now id role).1, (store.switchRole now id role).2)
  | .remove id => (.removed (store.remove id).1, (store.remove id).2)
  | .purge now => (.purged (store.purge now).1, (store.purge now).2)

/-- The store after calls. -/
def serveAll (store : SessionStore) (calls : List StoreCall) : SessionStore :=
  calls.foldl (fun st c => (st.serve c).2) store

/-- The calls with their answers. -/
def transcript : SessionStore → List StoreCall → List Exchange
  | _, [] => []
  | store, c :: rest => ⟨c, (store.serve c).1⟩ :: (store.serve c).2.transcript rest

/-- A store without sessions. -/
def opened (ttl : Int) : SessionStore := { ttl := ttl, sessions := [] }

end SessionStore

/-! ## What the past tells of a token -/

/-- The role that the token's session was given last, or else the one with which it started. -/
def lastRole (id : Uuid) (since : List Exchange) (first : Role) : Role :=
  ((since.filterMap (Exchange.given? id)).getLast?).getD first

/-- No session is started for the token, and none is ended. -/
def Undisturbed (id : Uuid) (since : List Exchange) : Prop :=
  ∀ e ∈ since, e.started? id = none ∧ e.call ≠ .remove id

/-- The past tells of a session of the token: the one that was started last, if it was not ended
since, with the role that it was given last. -/
def Tells (past : List Exchange) (id : Uuid) (s : Session) : Prop :=
  ∃ before start first since, past = before ++ start :: since ∧ start.started? id = some first ∧
    Undisturbed id since ∧ s = first.withRole (lastRole id since first.actor.role)

theorem lastRole_concat (id : Uuid) (since : List Exchange) (e : Exchange) (first : Role) :
    lastRole id (since ++ [e]) first = (e.given? id).getD (lastRole id since first) := by
  unfold lastRole
  rw [List.filterMap_append]
  cases he : e.given? id with
  | none => simp [he]
  | some role => simp [he]

theorem undisturbed_concat {id : Uuid} {since : List Exchange} {e : Exchange} :
    Undisturbed id (since ++ [e]) ↔
      Undisturbed id since ∧ e.started? id = none ∧ e.call ≠ .remove id := by
  unfold Undisturbed
  rw [List.forall_mem_append, List.forall_mem_singleton]

theorem not_tells_nil (id : Uuid) (s : Session) : ¬ Tells [] id s := by
  rintro ⟨before, start, first, since, h, -⟩
  simp at h

variable {past : List Exchange} {e : Exchange} {id : Uuid} {s : Session}

/-- After a start the past tells of the session that was started. -/
theorem tells_concat_of_started {first : Session} (he : e.started? id = some first) :
    Tells (past ++ [e]) id s ↔ s = first := by
  constructor
  · rintro ⟨before, start, other, since, hsplit, hstart, hquiet, rfl⟩
    rcases concat_eq_append_cons_iff.mp hsplit with ⟨rfl, -, rfl⟩ | ⟨older, rfl, -⟩
    · obtain rfl := Option.some.inj (he.symm.trans hstart)
      rfl
    · have hnone := (undisturbed_concat.mp hquiet).2.1
      rw [he] at hnone
      cases hnone
  · rintro rfl
    exact ⟨past, e, s, [], rfl, he, List.forall_mem_nil _, rfl⟩

/-- After an end the past tells of no session. -/
theorem not_tells_concat_of_ended (he : e.started? id = none) (hend : e.call = .remove id) :
    ¬ Tells (past ++ [e]) id s := by
  rintro ⟨before, start, first, since, hsplit, hstart, hquiet, -⟩
  rcases concat_eq_append_cons_iff.mp hsplit with ⟨rfl, -, rfl⟩ | ⟨older, rfl, -⟩
  · rw [he] at hstart
    cases hstart
  · exact (undisturbed_concat.mp hquiet).2.2 hend

/-- Any other exchange leaves the session of which the past tells, or gives it a role. -/
theorem tells_concat_of_quiet (he : e.started? id = none) (hend : e.call ≠ .remove id) :
    Tells (past ++ [e]) id s ↔
      ∃ t, Tells past id t ∧ s = t.withRole ((e.given? id).getD t.actor.role) := by
  constructor
  · rintro ⟨before, start, first, since, hsplit, hstart, hquiet, rfl⟩
    rcases concat_eq_append_cons_iff.mp hsplit with ⟨rfl, -, rfl⟩ | ⟨older, rfl, rfl⟩
    · rw [he] at hstart
      cases hstart
    · refine ⟨_, ⟨before, start, first, older, rfl, hstart, (undisturbed_concat.mp hquiet).1, rfl⟩, ?_⟩
      rw [lastRole_concat]
      rfl
  · rintro ⟨t, ⟨before, start, first, since, rfl, hstart, hquiet, rfl⟩, rfl⟩
    refine ⟨before, start, first, since ++ [e], by simp, hstart,
      undisturbed_concat.mpr ⟨hquiet, he, hend⟩, ?_⟩
    rw [lastRole_concat]
    rfl

/-- An exchange that gives the token no role either is no news of it. -/
theorem tells_concat_of_no_news (he : e.started? id = none) (hend : e.call ≠ .remove id)
    (hgiven : e.given? id = none) : Tells (past ++ [e]) id s ↔ Tells past id s := by
  rw [tells_concat_of_quiet he hend, hgiven]
  constructor
  · rintro ⟨t, ht, rfl⟩
    exact ht
  · intro hs
    exact ⟨s, hs, rfl⟩

/-! ## The store follows its past -/

namespace SessionStore

theorem serve_ttl (store : SessionStore) (c : StoreCall) : (store.serve c).2.ttl = store.ttl := by
  cases c with
  | create now id actor => exact started_ttl store now id actor
  | get now id =>
    show (store.get now id).2.ttl = store.ttl
    rcases get_snd store now id with h | h <;> rw [h]
    rfl
  | switchRole now id role => exact switchRole_ttl store now id role
  | _ => rfl

theorem Distinct.serve {store : SessionStore} (h : store.Distinct) (c : StoreCall) :
    (store.serve c).2.Distinct := by
  cases c with
  | create now id actor => exact h.started now id actor
  | get now id => exact h.get now id
  | switchRole now id role => exact h.switchRole now id role
  | remove id => exact h.without id
  | purge now => exact h.purge now

/-- At every instant that the clock has not passed, the live session of a token is the one of which
the past tells. -/
structure Follows (store : SessionStore) (past : List Exchange) (readings : List Instant) :
    Prop where
  distinct : store.Distinct
  live : ∀ t, (∀ r ∈ readings, r ≤ t) → ∀ id s,
    store.live t id = some s ↔ Tells past id s ∧ s.isExpired t = false

namespace Follows

variable {store : SessionStore} {past : List Exchange} {readings : List Instant}

theorem opened (ttl : Int) : Follows (opened ttl) [] [] where
  distinct := List.nodup_nil
  live t _ id s := by
    constructor
    · intro h
      cases h
    · rintro ⟨h, -⟩
      exact absurd h (not_tells_nil id s)

/-- A call that is no news and leaves the live sessions alone. -/
theorem idle (h : Follows store past readings) {c : StoreCall}
    (hstart : ∀ id, (Exchange.mk c (store.serve c).1).started? id = none)
    (hend : ∀ id, c ≠ .remove id)
    (hgiven : ∀ id, (Exchange.mk c (store.serve c).1).given? id = none)
    (hdistinct : (store.serve c).2.Distinct)
    (hlive : ∀ t, (∀ now ∈ c.reading?, now ≤ t) → ∀ id,
      (store.serve c).2.live t id = store.live t id) :
    Follows (store.serve c).2 (past ++ [⟨c, (store.serve c).1⟩])
      (readings ++ c.reading?.toList) where
  distinct := hdistinct
  live t ht id s := by
    rw [List.forall_mem_append] at ht
    rw [tells_concat_of_no_news (hstart id) (hend id) (hgiven id),
      hlive t (fun now hnow => ht.2 now (Option.mem_toList.mpr hnow)) id]
    exact h.live t ht.1 id s

theorem create (h : Follows store past readings) (now : Instant) (token : Uuid) (actor : Actor) :
    Follows (store.started now token actor)
      (past ++ [⟨.create now token actor, (store.serve (.create now token actor)).1⟩])
      (readings ++ [now]) where
  distinct := h.distinct.started now token actor
  live t ht id s := by
    rw [List.forall_mem_append] at ht
    cases hexpiry : now.plusSeconds? store.ttl with
    | none =>
      rw [started_of_none hexpiry]
      have hanswer : (store.serve (.create now token actor)).1 = .created (.error .dateOutOfRange) := by
        simp only [serve, SessionStore.create, hexpiry, Except.map]
      rw [hanswer, tells_concat_of_no_news rfl (by simp) rfl]
      exact h.live t ht.1 id s
    | some expiry =>
      have hanswer : (store.serve (.create now token actor)).1 =
          .created (.ok ⟨token, actor, now, expiry⟩) := by
        simp only [serve, SessionStore.create, hexpiry, Except.map]
      rw [hanswer, live_started h.distinct hexpiry]
      by_cases hid : token = id
      · have hstart : Exchange.started? id ⟨.create now token actor,
            .created (.ok ⟨token, actor, now, expiry⟩)⟩ = some ⟨token, actor, now, expiry⟩ :=
          if_pos hid
        rw [tells_concat_of_started hstart, if_pos hid, Option.filter_eq_some_iff,
          Option.some.injEq, Bool.not_eq_true']
        constructor
        · rintro ⟨rfl, hlive⟩
          exact ⟨rfl, hlive⟩
        · rintro ⟨rfl, hlive⟩
          exact ⟨rfl, hlive⟩
      · have hstart : Exchange.started? id ⟨.create now token actor,
            .created (.ok ⟨token, actor, now, expiry⟩)⟩ = none := if_neg hid
        rw [tells_concat_of_no_news hstart (by simp) rfl, if_neg hid]
        exact h.live t ht.1 id s

theorem switchRole (h : Follows store past readings) (now : Instant) (token : Uuid) (role : Role) :
    Follows (store.switchRole now token role).2
      (past ++ [⟨.switchRole now token role, .switched (store.switchRole now token role).1⟩])
      (readings ++ [now]) where
  distinct := h.distinct.switchRole now token role
  live t ht id s := by
    rw [List.forall_mem_append, List.forall_mem_singleton] at ht
    rw [live_switchRole h.distinct ht.2, switchRole_fst, tells_concat_of_quiet rfl (by simp)]
    by_cases hid : token = id
    · subst hid
      rw [if_pos rfl, Option.map_eq_some_iff]
      cases hnow : store.live now token with
      | none =>
        -- A session that is live later would be live now.
        have hlater : ∀ s, store.live t token ≠ some s := by
          intro s hs
          rw [live_of_live_later ht.2 hs] at hnow
          cases hnow
        constructor
        · rintro ⟨t', hlive, -⟩
          exact absurd hlive (hlater t')
        · rintro ⟨⟨t', htells, rfl⟩, hlive⟩
          exact absurd ((h.live t ht.1 token t').mpr ⟨htells, hlive⟩) (hlater t')
      | some met =>
        have hgiven : Exchange.given? token
            ⟨.switchRole now token role, .switched ((some met).map (Session.withRole · role))⟩ =
              some role := if_pos rfl
        rw [hgiven]
        constructor
        · rintro ⟨t', hlive, rfl⟩
          obtain ⟨htells, hlive⟩ := (h.live t ht.1 token t').mp hlive
          exact ⟨⟨t', htells, rfl⟩, hlive⟩
        · rintro ⟨⟨t', htells, rfl⟩, hlive⟩
          exact ⟨t', (h.live t ht.1 token t').mpr ⟨htells, hlive⟩, rfl⟩
    · have hgiven : Exchange.given? id
          ⟨.switchRole now token role, .switched ((store.live now token).map
            (Session.withRole · role))⟩ = none := by
        cases store.live now token with
        | none => rfl
        | some met => exact if_neg hid
      rw [if_neg hid, ← tells_concat_of_quiet rfl (by simp),
        tells_concat_of_no_news rfl (by simp) hgiven]
      exact h.live t ht.1 id s

theorem remove (h : Follows store past readings) (token : Uuid) :
    Follows (store.without token)
      (past ++ [⟨.remove token, .removed (store.remove token).1⟩]) readings where
  distinct := h.distinct.without token
  live t ht id s := by
    rw [live_without h.distinct]
    by_cases hid : token = id
    · subst hid
      rw [if_pos rfl]
      constructor
      · intro hs
        cases hs
      · rintro ⟨htells, -⟩
        exact absurd htells (not_tells_concat_of_ended rfl rfl)
    · have hend : StoreCall.remove token ≠ .remove id := fun he => hid (StoreCall.remove.inj he)
      rw [if_neg hid, tells_concat_of_no_news rfl hend rfl]
      exact h.live t ht id s

/-- Each call keeps the store and its past together. -/
theorem step (h : Follows store past readings) (c : StoreCall) :
    Follows (store.serve c).2 (past ++ [⟨c, (store.serve c).1⟩])
      (readings ++ c.reading?.toList) := by
  cases c with
  | create now token actor => exact h.create now token actor
  | get now token =>
    refine h.idle (fun _ => rfl) (by simp) (fun _ => rfl) (h.distinct.get now token) ?_
    intro t ht id
    exact live_get h.distinct (ht now rfl) token
  | switchRole now token role => exact h.switchRole now token role
  | remove token =>
    show Follows _ _ (readings ++ [])
    rw [List.append_nil]
    exact h.remove token
  | purge now =>
    refine h.idle (fun _ => rfl) (by simp) (fun _ => rfl) (h.distinct.purge now) ?_
    intro t ht id
    exact live_purge h.distinct (ht now rfl)

/-- Calls keep the store and its past together. -/
theorem run (h : Follows store past readings) (calls : List StoreCall) :
    Follows (store.serveAll calls) (past ++ store.transcript calls)
      (readings ++ calls.filterMap StoreCall.reading?) := by
  induction calls generalizing store past readings with
  | nil =>
    show Follows store (past ++ []) (readings ++ [])
    rw [List.append_nil, List.append_nil]
    exact h
  | cons c rest ih =>
    have hrest := ih (h.step c)
    rw [List.append_assoc, List.append_assoc, ← StoreCall.readings_cons] at hrest
    exact hrest

end Follows

/-- A start in the transcript is that of the session of its call. -/
theorem started_of_mem_transcript {store : SessionStore} {calls : List StoreCall} {e : Exchange}
    (he : e ∈ store.transcript calls) {id : Uuid} {first : Session}
    (hstart : e.started? id = some first) :
    ∃ born actor expiry, born.plusSeconds? store.ttl = some expiry ∧
      first = ⟨id, actor, born, expiry⟩ ∧ e = ⟨.create born id actor, .created (.ok first)⟩ := by
  induction calls generalizing store with
  | nil => cases he
  | cons c rest ih =>
    rcases List.mem_cons.mp he with rfl | he
    · cases c with
      | create born token actor =>
        cases hexpiry : born.plusSeconds? store.ttl with
        | none =>
          simp only [serve, create, hexpiry, Except.map] at hstart
          cases hstart
        | some expiry =>
          simp only [serve, create, hexpiry, Except.map] at hstart ⊢
          obtain ⟨rfl, hfirst⟩ := Option.ite_none_right_eq_some.mp hstart
          obtain rfl := Option.some.inj hfirst
          exact ⟨born, actor, expiry, hexpiry, rfl, rfl⟩
      | _ => cases hstart
    · have hrest := ih he
      rw [serve_ttl] at hrest
      exact hrest

/-! ## Purges are no news -/

/-- At every instant that the clock has not passed the stores have the same live sessions. -/
structure Alike (readings : List Instant) (a b : SessionStore) : Prop where
  ttl : a.ttl = b.ttl
  distinct : a.Distinct
  distinct' : b.Distinct
  live : ∀ t, (∀ r ∈ readings, r ≤ t) → ∀ id, a.live t id = b.live t id

namespace Alike

variable {readings : List Instant} {a b : SessionStore}

theorem refl (h : a.Distinct) : Alike readings a a := ⟨rfl, h, h, fun _ _ _ => rfl⟩

/-- A purge of one of two stores. -/
theorem purge (h : Alike readings a b) (now : Instant) :
    Alike (readings ++ [now]) (a.purge now).2 b where
  ttl := h.ttl
  distinct := h.distinct.purge now
  distinct' := h.distinct'
  live t ht id := by
    rw [List.forall_mem_append, List.forall_mem_singleton] at ht
    rw [live_purge h.distinct ht.2]
    exact h.live t ht.1 id

/-- One call of both stores. -/
theorem step (h : Alike readings a b) (c : StoreCall) :
    Alike (readings ++ c.reading?.toList) (a.serve c).2 (b.serve c).2 where
  ttl := by rw [serve_ttl, serve_ttl, h.ttl]
  distinct := h.distinct.serve c
  distinct' := h.distinct'.serve c
  live t ht id := by
    rw [List.forall_mem_append] at ht
    have hsame := h.live t ht.1 id
    cases c with
    | create now token actor =>
      show (a.started now token actor).live t id = (b.started now token actor).live t id
      cases hexpiry : now.plusSeconds? a.ttl with
      | none => rw [started_of_none hexpiry, started_of_none (h.ttl ▸ hexpiry), hsame]
      | some expiry =>
        rw [live_started h.distinct hexpiry, live_started h.distinct' (h.ttl ▸ hexpiry), hsame]
    | get now token =>
      have hnow := ht.2 now (List.mem_singleton_self now)
      show (a.get now token).2.live t id = (b.get now token).2.live t id
      rw [live_get h.distinct hnow, live_get h.distinct' hnow, hsame]
    | switchRole now token role =>
      have hnow := ht.2 now (List.mem_singleton_self now)
      show (a.switchRole now token role).2.live t id = (b.switchRole now token role).2.live t id
      rw [live_switchRole h.distinct hnow, live_switchRole h.distinct' hnow, hsame]
    | remove token =>
      show (a.without token).live t id = (b.without token).live t id
      rw [live_without h.distinct, live_without h.distinct', hsame]
    | purge now =>
      have hnow := ht.2 now (List.mem_singleton_self now)
      show (a.purge now).2.live t id = (b.purge now).2.live t id
      rw [live_purge h.distinct hnow, live_purge h.distinct' hnow, hsame]

/-- Lookups and switches of the role are answered alike. -/
theorem looked (h : Alike readings a b) (c : StoreCall)
    (hc : ∀ now ∈ c.reading?, ∀ r ∈ readings, r ≤ now) :
    Exchange.looked? ⟨c, (a.serve c).1⟩ = Exchange.looked? ⟨c, (b.serve c).1⟩ := by
  cases c with
  | get now id =>
    have hsame := h.live now (hc now rfl) id
    show some (a.get now id).1 = some (b.get now id).1
    rw [get_fst, get_fst, hsame]
  | switchRole now id role =>
    have hsame := h.live now (hc now rfl) id
    show some (a.switchRole now id role).1 = some (b.switchRole now id role).1
    rw [switchRole_fst, switchRole_fst, hsame]
  | _ => rfl

/-- Without its purges a run has the same lookups and switches, answered alike. -/
theorem looked_run (h : Alike readings a b) {calls : List StoreCall}
    (hclock : (readings ++ calls.filterMap StoreCall.reading?).Pairwise (· ≤ ·)) :
    (a.transcript calls).filterMap Exchange.looked? =
      (b.transcript (calls.filter fun c => !c.isPurge)).filterMap Exchange.looked? := by
  induction calls generalizing a b readings with
  | nil => rfl
  | cons c rest ih =>
    rw [StoreCall.readings_cons, ← List.append_assoc] at hclock
    have hrest {a b : SessionStore} (h' : Alike (readings ++ c.reading?.toList) a b) := ih h' hclock
    cases hpurge : c.isPurge with
    | true =>
      cases c with
      | purge now =>
        rw [List.filter_cons_of_neg (by simp [hpurge])]
        exact hrest (h.purge now)
      | _ => cases hpurge
    | false =>
      have hc : ∀ now ∈ c.reading?, ∀ r ∈ readings, r ≤ now := by
        intro now hnow r hr
        have hsplit := (List.pairwise_append.mp hclock).1
        exact (List.pairwise_append.mp hsplit).2.2 r hr now (Option.mem_toList.mpr hnow)
      rw [List.filter_cons_of_pos (by simp [hpurge])]
      show List.filterMap _ (_ :: _) = List.filterMap _ (_ :: _)
      rw [List.filterMap_cons, List.filterMap_cons, h.looked c hc, hrest (h.step c)]

end Alike

/-- The past vouches for a session of the token at an instant: it was started for the token, the
token was neither started again nor ended since, and the instant is before the expiry.  All is as
it was at the start but the role, which is the one given last. -/
def Vouches (ttl : Int) (past : List Exchange) (now : Instant) (id : Uuid) (s : Session) : Prop :=
  ∃ before born actor expiry since, born.plusSeconds? ttl = some expiry ∧
    past = before ++ ⟨.create born id actor, .created (.ok ⟨id, actor, born, expiry⟩)⟩ :: since ∧
    Undisturbed id since ∧ ¬ expiry ≤ now ∧
    s = ⟨id, { actor with role := lastRole id since actor.role }, born, expiry⟩

theorem vouches_transcript_iff {ttl : Int} {calls : List StoreCall} {now : Instant} {id : Uuid}
    {s : Session} : Vouches ttl ((opened ttl).transcript calls) now id s ↔
      Tells ((opened ttl).transcript calls) id s ∧ s.isExpired now = false := by
  constructor
  · rintro ⟨before, born, actor, expiry, since, -, hsplit, hquiet, hlive, rfl⟩
    exact ⟨⟨before, _, _, since, hsplit, if_pos rfl, hquiet, rfl⟩,
      Session.isExpired_eq_false_iff.mpr hlive⟩
  · rintro ⟨⟨before, start, first, since, hsplit, hstart, hquiet, rfl⟩, hlive⟩
    have hmem : start ∈ (opened ttl).transcript calls := by
      rw [hsplit]
      exact List.mem_append_right before (List.mem_cons_self ..)
    obtain ⟨born, actor, expiry, hexpiry, rfl, rfl⟩ := started_of_mem_transcript hmem hstart
    exact ⟨before, born, actor, expiry, since, hexpiry, hsplit, hquiet,
      Session.isExpired_eq_false_iff.mp hlive, rfl⟩

/-- **The store is a map with expiry.**  Its lifetime for sessions may be any, and the clock never
runs back.  A lookup finds a session just if the past vouches for it, and so does a switch of the
role, which yields it with the new role; the permissions are those of the role.  A purge drops the
expired sessions and tells their number.  Calls that differ in their purges only have the same
lookups and switches, answered alike. -/
theorem refines_map_with_expiry (ttl : Int) (calls : List StoreCall) (now : Instant)
    (hclock : (calls.filterMap StoreCall.reading? ++ [now]).Pairwise (· ≤ ·)) :
    let store := (opened ttl).serveAll calls
    let past := (opened ttl).transcript calls
    (∀ id s, (store.get now id).1 = some s ↔ Vouches ttl past now id s) ∧
    (∀ id role s, (store.switchRole now id role).1 = some s ↔
      ∃ before, Vouches ttl past now id before ∧ s = before.withRole role) ∧
    (∀ s : Session, ∀ p, p ∈ s.actor.permissions ↔ p ∈ s.actor.role.grants) ∧
    (store.sessions.map Session.id).Nodup ∧
    (∀ s, s ∈ (store.purge now).2.sessions ↔ s ∈ store.sessions ∧ ¬ s.expiresAt ≤ now) ∧
    (store.purge now).1 = store.sessions.countP (fun s => decide (s.expiresAt ≤ now)) ∧
    ∀ others : List StoreCall, (others.filterMap StoreCall.reading?).Pairwise (· ≤ ·) →
      (others.filter fun c => !c.isPurge) = (calls.filter fun c => !c.isPurge) →
      ((opened ttl).transcript others).filterMap Exchange.looked? =
        past.filterMap Exchange.looked? := by
  intro store past
  obtain ⟨hreadings, -, hnow⟩ := List.pairwise_append.mp hclock
  have hfollows : Follows store past (calls.filterMap StoreCall.reading?) :=
    (Follows.opened ttl).run calls
  have hlive : ∀ id s, store.live now id = some s ↔ Vouches ttl past now id s := by
    intro id s
    rw [vouches_transcript_iff]
    exact hfollows.live now (fun r hr => hnow r hr now (List.mem_singleton_self now)) id s
  refine ⟨fun id s => ?_, fun id role s => ?_, fun s p => ?_, hfollows.distinct, fun s => ?_, ?_,
    fun others hothers hsame => ?_⟩
  · rw [get_fst, hlive]
  · rw [switchRole_fst, Option.map_eq_some_iff]
    simp only [hlive, eq_comm]
  · rw [Actor.permissions, List.mem_filter]
    exact ⟨fun h => of_decide_eq_true h.2, fun h => ⟨p.mem_all, decide_eq_true h⟩⟩
  · rw [mem_purge, Session.isExpired_eq_false_iff]
  · rw [purge_fst]
    rfl
  · have hopened : Alike [] (opened ttl) (opened ttl) := Alike.refl List.nodup_nil
    rw [hopened.looked_run hothers, hsame, ← hopened.looked_run hreadings]

/-- With a lifetime of a minute: one session is given a role, asked for just when it expires, and
lingers until it is swept away; another one is still good ten seconds later. -/
def sampleCalls : List StoreCall :=
  let id (n : Nat) : Uuid := .ofNat n
  let second (n : Int) : Instant := ⟨n, 0⟩
  [.create (second 0) (id 1) ⟨id 11, .support⟩,
    .switchRole (second 10) (id 1) .moderator,
    .create (second 20) (id 2) ⟨id 12, .admin⟩,
    .switchRole (second 30) (id 2) .owner,
    .switchRole (second 60) (id 1) .owner,
    .purge (second 61)]

theorem refines_map_with_expiry_sampleCalls :
    (sampleCalls.filterMap StoreCall.reading? ++ [Instant.mk 70 0]).Pairwise (· ≤ ·) ∧
      Vouches 60 ((opened 60).transcript sampleCalls) ⟨70, 0⟩ (.ofNat 2)
        ⟨.ofNat 2, ⟨.ofNat 12, .owner⟩, ⟨20, 0⟩, ⟨80, 0⟩⟩ ∧
      ¬ ∃ s, Vouches 60 ((opened 60).transcript sampleCalls) ⟨70, 0⟩ (.ofNat 1) s := by
  have hclock : (sampleCalls.filterMap StoreCall.reading? ++ [Instant.mk 70 0]).Pairwise (· ≤ ·) := by
    decide
  obtain ⟨hget, -⟩ := refines_map_with_expiry 60 sampleCalls ⟨70, 0⟩ hclock
  refine ⟨hclock, (hget _ _).mp (by decide), ?_⟩
  rintro ⟨s, hs⟩
  have hnone : (((opened 60).serveAll sampleCalls).get ⟨70, 0⟩ (.ofNat 1)).1 = none := by decide
  rw [(hget _ s).mpr hs] at hnone
  cases hnone

end SessionStore

end AdminConsole
