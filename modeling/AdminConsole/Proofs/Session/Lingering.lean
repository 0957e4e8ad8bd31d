import AdminConsole.Proofs.Server.Handle
import AdminConsole.Proofs.Session.Past

/-! # Sessions that linger

The health check tells how many sessions the store holds.  Among these are
expired ones: a session that has expired stays until a call **meets** it, which
is a lookup or a switch of the role with its token, or a purge.  What the store
holds is told by the past alone, without regard to the clock: each session that
was started, was neither ended nor started anew since, and was not met at its
expiry or later (`Leaves`).

So the health check reports the live sessions together with those that linger
(`SessionStore.health_counts_unmet`), and it counts a session that nobody can
use any more (`SessionStore.health_counts_expired`).  Right after a purge it
reports the live sessions alone.
-/
namespace AdminConsole

/-! ## What the past leaves in the store -/

/-- The instant at which the call meets the session of the token, and drops it if it is expired. -/
def StoreCall.meets? (id : Uuid) : StoreCall → Option Instant
  | .get now token | .switchRole now token _ => if token = id then some now else none
  | .purge now => some now
  | .create _ _ _ | .remove _ => none

/-- No call meets the session of the token at the expiry or later. -/
def Unmet (id : Uuid) (since : List Exchange) (expiry : Instant) : Prop :=
  ∀ e ∈ since, ∀ t ∈ e.call.meets? id, ¬ expiry ≤ t

/-- The past leaves a session of the token in the store: the one that was started last, if it was
neither ended since nor met when it was expired, with the role that it was given last. -/
def Leaves (past : List Exchange) (id : Uuid) (s : Session) : Prop :=
  ∃ before start first since, past = before ++ start :: since ∧ start.started? id = some first ∧
    Undisturbed id since ∧ Unmet id since first.expiresAt ∧
    s = first.withRole (lastRole id since first.actor.role)

theorem StoreCall.forall_mem_meets?_iff {token id : Uuid} {now : Instant} {P : Instant → Prop} :
    (∀ t ∈ if token = id then some now else none, P t) ↔ (token = id → P now) := by
  constructor
  · intro h hid
    exact h now (by rw [if_pos hid]; rfl)
  · intro h t ht
    obtain ⟨hid, ht⟩ := Option.mem_ite_none_right.mp ht
    exact Option.mem_some.mp ht ▸ h hid

variable {past : List Exchange} {e : Exchange} {id : Uuid} {s : Session}

theorem unmet_concat {since : List Exchange} {expiry : Instant} :
    Unmet id (since ++ [e]) expiry ↔
      Unmet id since expiry ∧ ∀ t ∈ e.call.meets? id, ¬ expiry ≤ t := by
  unfold Unmet
  rw [List.forall_mem_append, List.forall_mem_singleton]

theorem not_leaves_nil (id : Uuid) (s : Session) : ¬ Leaves [] id s := by
  rintro ⟨before, start, first, since, h, -⟩
  simp at h

/-- After a start the past leaves the session that was started. -/
theorem leaves_concat_of_started {first : Session} (he : e.started? id = some first) :
    Leaves (past ++ [e]) id s ↔ s = first := by
  constructor
  · rintro ⟨before, start, other, since, hsplit, hstart, hquiet, -, rfl⟩
    rcases concat_eq_append_cons_iff.mp hsplit with ⟨rfl, -, rfl⟩ | ⟨older, rfl, -⟩
    · obtain rfl := Option.some.inj (he.symm.trans hstart)
      rfl
    · have hnone := (undisturbed_concat.mp hquiet).2.1
      rw [he] at hnone
      cases hnone
  · rintro rfl
    exact ⟨past, e, s, [], rfl, he, List.forall_mem_nil _, List.forall_mem_nil _, rfl⟩

/-- After an end the past leaves no session. -/
theorem not_leaves_concat_of_ended (he : e.started? id = none) (hend : e.call = .remove id) :
    ¬ Leaves (past ++ [e]) id s := by
  rintro ⟨before, start, first, since, hsplit, hstart, hquiet, -⟩
  rcases concat_eq_append_cons_iff.mp hsplit with ⟨rfl, -, rfl⟩ | ⟨older, rfl, -⟩
  · rw [he] at hstart
    cases hstart
  · exact (undisturbed_concat.mp hquiet).2.2 hend

/-- Any other exchange leaves the session that it does not meet expired, and may give it a role. -/
theorem leaves_concat_of_quiet (he : e.started? id = none) (hend : e.call ≠ .remove id) :
    Leaves (past ++ [e]) id s ↔
      ∃ t, Leaves past id t ∧ (∀ now ∈ e.call.meets? id, ¬ t.expiresAt ≤ now) ∧
        s = t.withRole ((e.given? id).getD t.actor.role) := by
  constructor
  · rintro ⟨before, start, first, since, hsplit, hstart, hquiet, hunmet, rfl⟩
    rcases concat_eq_append_cons_iff.mp hsplit with ⟨rfl, -, rfl⟩ | ⟨older, rfl, rfl⟩
    · rw [he] at hstart
      cases hstart
    · obtain ⟨hunmet, hmet⟩ := unmet_concat.mp hunmet
      refine ⟨_, ⟨before, start, first, older, rfl, hstart, (undisturbed_concat.mp hquiet).1,
        hunmet, rfl⟩, hmet, ?_⟩
      rw [lastRole_concat]
      rfl
  · rintro ⟨t, ⟨before, start, first, since, rfl, hstart, hquiet, hunmet, rfl⟩, hmet, rfl⟩
    refine ⟨before, start, first, since ++ [e], by simp, hstart,
      undisturbed_concat.mpr ⟨hquiet, he, hend⟩, unmet_concat.mpr ⟨hunmet, hmet⟩, ?_⟩
    rw [lastRole_concat]
    rfl

/-- An exchange that neither meets the token nor gives it a role is no news of it. -/
theorem leaves_concat_of_no_news (he : e.started? id = none) (hend : e.call ≠ .remove id)
    (hmeets : e.call.meets? id = none) (hgiven : e.given? id = none) :
    Leaves (past ++ [e]) id s ↔ Leaves past id s := by
  rw [leaves_concat_of_quiet he hend, hmeets, hgiven]
  constructor
  · rintro ⟨t, ht, -, rfl⟩
    exact ht
  · intro hs
    exact ⟨s, hs, fun _ h => (Option.not_mem_none _ h).elim, rfl⟩

/-! ## The store holds what the past leaves -/

namespace SessionStore

variable {store : SessionStore} {now : Instant} {token : Uuid}

/-- A lookup drops the session of its token if that is expired, and leaves every other. -/
theorem find?_get :
    (store.get now token).2.find? id = some s ↔
      store.find? id = some s ∧ (token = id → ¬ s.expiresAt ≤ now) := by
  cases hfound : store.find? token with
  | none =>
    rw [get_of_none hfound]
    refine (and_iff_left_of_imp fun hs => ?_).symm
    rintro rfl
    cases hfound.symm.trans hs
  | some t =>
    cases hexpired : t.isExpired now with
    | true =>
      rw [get_of_expired hfound hexpired]
      by_cases hid : token = id
      · subst hid
        refine iff_of_false (fun hs => ?_) ?_
        · exact (mem_without.mp (find?_mem hs)).2 (find?_id hs)
        · rintro ⟨hs, hlive⟩
          obtain rfl := Option.some.inj (hfound.symm.trans hs)
          exact hlive rfl (Session.isExpired_iff.mp hexpired)
      · rw [find?_without (Ne.symm hid)]
        exact (and_iff_left fun he => absurd he hid).symm
    | false =>
      rw [get_of_live hfound hexpired]
      refine (and_iff_left_of_imp fun hs => ?_).symm
      rintro rfl
      obtain rfl := Option.some.inj (hfound.symm.trans hs)
      exact Session.isExpired_eq_false_iff.mp hexpired

theorem given_of_find?_eq_none (h : store.find? token = none) (role : Role) :
    store.given token role = store := by
  have hsame : store.sessions.map (fun s => if s.id = token then s.withRole role else s) =
      store.sessions :=
    (List.map_congr_left fun s hs => if_neg (id_ne_of_find?_eq_none h s hs)).trans (List.map_id _)
  unfold given
  rw [hsame]

/-- A switch of the role drops what a lookup drops, and gives the role to the session that is
left. -/
theorem switchRole_snd (store : SessionStore) (now : Instant) (token : Uuid) (role : Role) :
    (store.switchRole now token role).2 = (store.get now token).2.given token role := by
  cases hfound : store.find? token with
  | none =>
    rw [switchRole_of_none hfound, get_of_none hfound]
    exact (given_of_find?_eq_none hfound role).symm
  | some s =>
    cases hexpired : s.isExpired now with
    | true =>
      rw [switchRole_of_expired hfound hexpired, get_of_expired hfound hexpired]
      refine Eq.symm (given_of_find?_eq_none ?_ role)
      refine Option.eq_none_iff_forall_ne_some.mpr fun t ht => ?_
      exact (mem_without.mp (find?_mem ht)).2 (find?_id ht)
    | false => rw [switchRole_of_live hfound hexpired, get_of_live hfound hexpired]

/-- A purge drops the expired sessions, and leaves every other. -/
theorem find?_purge (h : store.Distinct) :
    (store.purge now).2.find? id = some s ↔ store.find? id = some s ∧ ¬ s.expiresAt ≤ now := by
  rw [find?_eq_some_iff (h.purge now), find?_eq_some_iff h, mem_purge,
    Session.isExpired_eq_false_iff, and_right_comm]

/-- The store holds the sessions that the past leaves. -/
structure Holds (store : SessionStore) (past : List Exchange) : Prop where
  distinct : store.Distinct
  find? : ∀ id s, store.find? id = some s ↔ Leaves past id s

namespace Holds

theorem opened (ttl : Int) : Holds (opened ttl) [] where
  distinct := List.nodup_nil
  find? id s := by
    constructor
    · intro h
      cases h
    · intro h
      exact absurd h (not_leaves_nil id s)

theorem create (h : Holds store past) (now : Instant) (token : Uuid) (actor : Actor) :
    Holds (store.started now token actor)
      (past ++ [⟨.create now token actor, (store.serve (.create now token actor)).1⟩]) where
  distinct := h.distinct.started now token actor
  find? id s := by
    cases hexpiry : now.plusSeconds? store.ttl with
    | none =>
      have hanswer : (store.serve (.create now token actor)).1 =
          .created (.error .dateOutOfRange) := by
        simp only [serve, SessionStore.create, hexpiry, Except.map]
      rw [started_of_none hexpiry, hanswer, leaves_concat_of_no_news rfl (by simp) rfl rfl]
      exact h.find? id s
    | some expiry =>
      have hanswer : (store.serve (.create now token actor)).1 =
          .created (.ok ⟨token, actor, now, expiry⟩) := by
        simp only [serve, SessionStore.create, hexpiry, Except.map]
      rw [hanswer, find?_eq_some_iff (h.distinct.started now token actor),
        mem_started_iff hexpiry]
      by_cases hid : token = id
      · subst hid
        have hstart : Exchange.started? token ⟨.create now token actor,
            .created (.ok ⟨token, actor, now, expiry⟩)⟩ = some ⟨token, actor, now, expiry⟩ :=
          if_pos rfl
        rw [leaves_concat_of_started hstart]
        constructor
        · rintro ⟨⟨-, hne⟩ | hs, hid⟩
          · exact absurd hid hne
          · exact hs
        · rintro rfl
          exact ⟨Or.inr rfl, rfl⟩
      · have hstart : Exchange.started? id ⟨.create now token actor,
            .created (.ok ⟨token, actor, now, expiry⟩)⟩ = none := if_neg hid
        rw [leaves_concat_of_no_news hstart (by simp) rfl rfl, ← h.find?,
          find?_eq_some_iff h.distinct]
        constructor
        · rintro ⟨⟨hs, -⟩ | rfl, hs'⟩
          · exact ⟨hs, hs'⟩
          · exact absurd hs' hid
        · rintro ⟨hs, rfl⟩
          exact ⟨Or.inl ⟨hs, Ne.symm hid⟩, rfl⟩

theorem get (h : Holds store past) (now : Instant) (token : Uuid) :
    Holds (store.get now token).2
      (past ++ [⟨.get now token, .found (store.get now token).1⟩]) where
  distinct := h.distinct.get now token
  find? id s := by
    rw [find?_get, leaves_concat_of_quiet rfl (by simp), h.find?]
    constructor
    · rintro ⟨hs, hlive⟩
      exact ⟨s, hs, StoreCall.forall_mem_meets?_iff.mpr hlive, rfl⟩
    · rintro ⟨t, ht, hlive, rfl⟩
      exact ⟨ht, StoreCall.forall_mem_meets?_iff.mp hlive⟩

theorem switchRole (h : Holds store past) (now : Instant) (token : Uuid) (role : Role) :
    Holds (store.switchRole now token role).2
      (past ++ [⟨.switchRole now token role, .switched (store.switchRole now token role).1⟩]) where
  distinct := h.distinct.switchRole now token role
  find? id s := by
    rw [switchRole_snd, find?_given, Option.map_eq_some_iff, leaves_concat_of_quiet rfl (by simp)]
    -- A switch is answered with the session that it leaves under its token.
    have hgiven : ∀ t, (store.get now token).2.find? id = some t →
        t.withRole ((Exchange.given? id ⟨.switchRole now token role,
          .switched (store.switchRole now token role).1⟩).getD t.actor.role) =
        if t.id = token then t.withRole role else t := by
      intro t ht
      obtain ⟨hfound, hlive⟩ := find?_get.mp ht
      obtain rfl := find?_id hfound
      by_cases hid : token = t.id
      · subst hid
        rw [switchRole_of_live hfound (Session.isExpired_eq_false_iff.mpr (hlive rfl)), if_pos rfl]
        simp only [Exchange.given?, ↓reduceIte, Option.getD_some]
      · rw [if_neg (Ne.symm hid)]
        cases (store.switchRole now token role).1 with
        | none => rfl
        | some met =>
          simp only [Exchange.given?, if_neg hid, Option.getD_none]
          rfl
    constructor
    · rintro ⟨t, ht, rfl⟩
      obtain ⟨hfound, hlive⟩ := find?_get.mp ht
      exact ⟨t, (h.find? id t).mp hfound, StoreCall.forall_mem_meets?_iff.mpr hlive,
        (hgiven t ht).symm⟩
    · rintro ⟨t, hleft, hlive, rfl⟩
      have ht : (store.get now token).2.find? id = some t :=
        find?_get.mpr ⟨(h.find? id t).mpr hleft, StoreCall.forall_mem_meets?_iff.mp hlive⟩
      exact ⟨t, ht, (hgiven t ht).symm⟩

theorem remove (h : Holds store past) (token : Uuid) :
    Holds (store.without token)
      (past ++ [⟨.remove token, .removed (store.remove token).1⟩]) where
  distinct := h.distinct.without token
  find? id s := by
    by_cases hid : token = id
    · subst hid
      refine iff_of_false (fun hs => ?_) (not_leaves_concat_of_ended rfl rfl)
      exact (mem_without.mp (find?_mem hs)).2 (find?_id hs)
    · have hend : StoreCall.remove token ≠ .remove id := fun he => hid (StoreCall.remove.inj he)
      rw [find?_without (Ne.symm hid), leaves_concat_of_no_news rfl hend rfl rfl]
      exact h.find? id s

theorem purge (h : Holds store past) (now : Instant) :
    Holds (store.purge now).2 (past ++ [⟨.purge now, .purged (store.purge now).1⟩]) where
  distinct := h.distinct.purge now
  find? id s := by
    rw [find?_purge h.distinct, leaves_concat_of_quiet rfl (by simp), h.find?]
    constructor
    · rintro ⟨hs, hlive⟩
      exact ⟨s, hs, fun t ht => Option.mem_some.mp ht ▸ hlive, rfl⟩
    · rintro ⟨t, ht, hlive, rfl⟩
      exact ⟨ht, hlive now rfl⟩

/-- Each call keeps the store and its past together. -/
theorem step (h : Holds store past) (c : StoreCall) :
    Holds (store.serve c).2 (past ++ [⟨c, (store.serve c).1⟩]) := by
  cases c with
  | create now token actor => exact h.create now token actor
  | get now token => exact h.get now token
  | switchRole now token role => exact h.switchRole now token role
  | remove token => exact h.remove token
  | purge now => exact h.purge now

/-- **After any calls the store holds the sessions that the past leaves.** -/
theorem run (h : Holds store past) (calls : List StoreCall) :
    Holds (store.serveAll calls) (past ++ store.transcript calls) := by
  induction calls generalizing store past with
  | nil =>
    show Holds store (past ++ [])
    rw [List.append_nil]
    exact h
  | cons c rest ih =>
    have hrest := ih (h.step c)
    rw [List.append_assoc] at hrest
    exact hrest

end Holds

end SessionStore

/-! ## The health check -/

/-- The number of sessions that an answer to the health check reports. -/
def Response.activeSessions? (r : Response) : Option Int :=
  match r.body.bind (Json.field? "active_sessions") with
  | some (.int n) => some n
  | _ => none

namespace Server

/-- The server reports a number of sessions to whoever asks for its health, and stays as it is. -/
def Reports (server : Server) (n : Nat) : Prop :=
  ∀ (m : Moment) (r : Request), ∃ response,
    server.handle m { r with method := "GET", path := "/health" } = .ok (response, server) ∧
      response.activeSessions? = some (n : Int)

/-- The health check reports the number of the sessions that are held. -/
theorem reports_size (server : Server) : server.Reports server.sessions.size := by
  intro m r
  have hroute : Route.find? "GET" "/health" = some .health := by decide
  have hwanted : wanted { r with method := "GET", path := "/health" } server.health =
      server.health := rfl
  refine ⟨server.health, ?_, rfl⟩
  rw [handle_open hroute rfl]
  show Except.ok (wanted _ server.health, server) = _
  rw [hwanted]

end Server

namespace SessionStore

/-- **The health check counts the sessions that linger.**  After any calls, whatever the lifetime
and the clock, it reports the number of the live sessions, which are those that a lookup finds, and of
the expired ones that the past leaves, because nobody met them since.  After a purge it reports the
live sessions alone. -/
theorem health_counts_unmet (ttl : Int) (calls : List StoreCall) (now : Instant)
    (server : Server) :
    let store := (opened ttl).serveAll calls
    let past := (opened ttl).transcript calls
    ∃ live lingering : List Session,
      { server with sessions := store }.Reports (live.length + lingering.length) ∧
      ((live ++ lingering).map Session.id).Nodup ∧
      (∀ s, s ∈ live ↔ (store.get now s.id).1 = some s) ∧
      (∀ s, s ∈ lingering ↔ Leaves past s.id s ∧ s.expiresAt ≤ now) ∧
      { server with sessions := (store.purge now).2 }.Reports live.length := by
  intro store past
  have hholds : store.Holds past := (Holds.opened ttl).run calls
  let live := store.sessions.filter fun s => !s.isExpired now
  let lingering := store.sessions.filter fun s => s.isExpired now
  have hperm : (live ++ lingering).Perm store.sessions :=
    List.perm_append_comm.trans (List.filter_append_perm (Session.isExpired · now) store.sessions)
  have hsize : live.length + lingering.length = store.size := by
    rw [← List.length_append]
    exact hperm.length_eq
  refine ⟨live, lingering, ?_, ?_, fun s => ?_, fun s => ?_, Server.reports_size _⟩
  · rw [hsize]
    exact Server.reports_size _
  · exact (hperm.map Session.id).nodup_iff.mpr hholds.distinct
  · rw [get_fst, live_eq_some_iff hholds.distinct, List.mem_filter, Bool.not_eq_true',
      and_iff_right (rfl : s.id = s.id)]
  · rw [← hholds.find?, find?_eq_some_iff hholds.distinct, List.mem_filter, Session.isExpired_iff,
      and_iff_left (rfl : s.id = s.id)]

/-- The only session expires as it starts: nobody can use it, and the health check counts it. -/
theorem health_counts_expired :
    let store := (opened 0).serveAll [.create ⟨0, 0⟩ (.ofNat 1) ⟨.ofNat 11, .owner⟩]
    (∀ id, (store.get ⟨0, 0⟩ id).1 = none) ∧
      ∀ server : Server, { server with sessions := store }.Reports 1 := by
  intro store
  have hsessions : store.sessions = [⟨.ofNat 1, ⟨.ofNat 11, .owner⟩, ⟨0, 0⟩, ⟨0, 0⟩⟩] := by decide
  refine ⟨fun id => Option.eq_none_iff_forall_ne_some.mpr fun s hs => ?_,
    fun server => Server.reports_size _⟩
  obtain ⟨hmem, -, hlive⟩ := get_some hs
  rw [hsessions, List.mem_singleton] at hmem
  subst hmem
  exact absurd hlive (by decide)

end SessionStore

end AdminConsole
