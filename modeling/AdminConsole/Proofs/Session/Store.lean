import AdminConsole.Session.Store

/-! # The session store, one token at a time

An operation of the store is about one token, or about time.  What it does to
the sessions of other tokens does not depend on the session of that one:
forgetting the session of a token and any operation commute, as far as the
other tokens can tell.
-/
namespace AdminConsole.SessionStore

variable {store : SessionStore} {now : Instant} {id token : Uuid}

/-- The sessions of the store other than those of the token. -/
theorem mem_without {s : Session} :
    s ∈ (store.without token).sessions ↔ s ∈ store.sessions ∧ s.id ≠ token := by
  rw [without, List.mem_filter, decide_eq_true_eq]

theorem without_without (store : SessionStore) (id token : Uuid) :
    (store.without id).without token = (store.without token).without id := by
  unfold without
  simp only [List.filter_filter]
  congr 2
  funext s
  exact Bool.and_comm _ _

theorem without_self (store : SessionStore) (token : Uuid) :
    (store.without token).without token = store.without token := by
  unfold without
  simp only [List.filter_filter, Bool.and_self]

theorem find?_without (h : id ≠ token) : (store.without token).find? id = store.find? id := by
  unfold find? without
  rw [List.find?_filter]
  congr 1
  funext s
  by_cases hs : s.id = id
  · simp only [hs, ne_eq, h, not_false_eq_true, decide_true, and_self]
  · simp only [hs, decide_false, Bool.false_eq_true, and_false]

theorem find?_id {s : Session} (h : store.find? id = some s) : s.id = id := by
  have hp := List.find?_some h
  exact of_decide_eq_true hp

theorem find?_mem {s : Session} (h : store.find? id = some s) : s ∈ store.sessions :=
  List.mem_of_find?_eq_some h

/-- No session has a token that is not found. -/
theorem id_ne_of_find?_eq_none (h : store.find? id = none) : ∀ s ∈ store.sessions, s.id ≠ id :=
  fun s hs => of_decide_eq_false (Bool.eq_false_iff.mpr (List.find?_eq_none.mp h s hs))

/-! ## What a lookup yields and leaves -/

/-- A lookup yields a session that the store holds and that has the token and is not expired. -/
theorem get_some {s : Session} (h : (store.get now id).1 = some s) :
    s ∈ store.sessions ∧ s.id = id ∧ s.isExpired now = false := by
  unfold get at h
  split at h
  · cases h
  · next t ht =>
    split at h
    · cases h
    · next hlive =>
      obtain rfl := Option.some.inj h
      exact ⟨find?_mem ht, find?_id ht, Bool.eq_false_iff.mpr hlive⟩

/-- A lookup leaves the store as it is, or drops the session that it finds expired. -/
theorem get_snd (store : SessionStore) (now : Instant) (id : Uuid) :
    (store.get now id).2 = store ∨ (store.get now id).2 = store.without id := by
  unfold get
  split
  · exact Or.inl rfl
  · split
    · exact Or.inr rfl
    · exact Or.inl rfl

/-! ## Forgetting a token -/

theorem get_without (h : id ≠ token) : (store.without token).get now id =
    ((store.get now id).1, (store.get now id).2.without token) := by
  unfold get
  rw [find?_without h]
  split
  · rfl
  · split
    · rw [without_without]
    · rfl

theorem filter_switched (sessions : List Session) (id token : Uuid) (role : Role) :
    (sessions.map fun s => if s.id = id then s.withRole role else s).filter
      (fun s => decide (s.id ≠ token)) =
    (sessions.filter fun s => decide (s.id ≠ token)).map
      fun s => if s.id = id then s.withRole role else s := by
  rw [List.filter_map]
  congr 1
  refine List.filter_congr fun s _ => ?_
  show decide ((if s.id = id then s.withRole role else s).id ≠ token) = decide (s.id ≠ token)
  split <;> rfl

theorem switchRole_without (role : Role) (h : id ≠ token) :
    ((store.without token).switchRole now id role).2 =
      (store.switchRole now id role).2.without token := by
  unfold switchRole
  rw [find?_without h]
  split
  · rfl
  · split
    · rw [without_without]
    · unfold without
      rw [filter_switched]

theorem mem_switchRole {role : Role} {s : Session}
    (h : s ∈ (store.switchRole now id role).2.sessions) :
    (s ∈ store.sessions ∧ s.id ≠ id) ∨
      ∃ t ∈ store.sessions, t.id = id ∧ s = t.withRole role := by
  unfold switchRole at h
  split at h
  · next hnone => exact Or.inl ⟨h, id_ne_of_find?_eq_none hnone s h⟩
  · split at h
    · exact Or.inl (mem_without.mp h)
    · obtain ⟨t, ht, hs⟩ := List.mem_map.mp h
      by_cases hid : t.id = id
      · rw [if_pos hid] at hs
        exact Or.inr ⟨t, ht, hid, hs.symm⟩
      · rw [if_neg hid] at hs
        subst hs
        exact Or.inl ⟨ht, hid⟩

theorem switchRole_ttl (store : SessionStore) (now : Instant) (id : Uuid) (role : Role) :
    (store.switchRole now id role).2.ttl = store.ttl := by
  unfold switchRole
  split
  · rfl
  · split <;> rfl

/-- Only the session of the token has its role switched. -/
theorem without_switchRole (store : SessionStore) (now : Instant) (token : Uuid) (role : Role) :
    (store.switchRole now token role).2.without token = store.without token := by
  unfold switchRole
  split
  · rfl
  · split
    · exact without_self store token
    · unfold without
      rw [filter_switched]
      congr 1
      refine (List.map_congr_left fun s hs => ?_).trans (List.map_id _)
      have hne : s.id ≠ token := of_decide_eq_true (List.mem_filter.mp hs).2
      exact if_neg hne

theorem remove_without (store : SessionStore) (id token : Uuid) :
    ((store.without token).remove id).2 = (store.remove id).2.without token :=
  without_without store token id

theorem purge_without (store : SessionStore) (now : Instant) (token : Uuid) :
    ((store.without token).purge now).2 = (store.purge now).2.without token := by
  unfold purge without
  simp only [List.filter_filter]
  congr 2
  funext s
  exact Bool.and_comm _ _

/-- The store after a sign-in, which a lifetime beyond the calendar cuts short. -/
def started (store : SessionStore) (now : Instant) (id : Uuid) (actor : Actor) : SessionStore :=
  match store.create now id actor with
  | .ok (_, store) => store
  | .error _ => store

theorem started_ttl (store : SessionStore) (now : Instant) (id : Uuid) (actor : Actor) :
    (store.started now id actor).ttl = store.ttl := by
  unfold started create
  cases now.plusSeconds? store.ttl <;> rfl

theorem mem_started {actor : Actor} {s : Session}
    (h : s ∈ (store.started now id actor).sessions) :
    (s ∈ store.sessions ∧ (s.id = id → now.plusSeconds? store.ttl = none)) ∨
      s.id = id ∧ s.actor = actor ∧ (now.plusSeconds? store.ttl).isSome := by
  unfold started create at h
  cases hexpiry : now.plusSeconds? store.ttl with
  | none =>
    rw [hexpiry] at h
    exact Or.inl ⟨h, fun _ => rfl⟩
  | some expiry =>
    rw [hexpiry] at h
    rcases List.mem_append.mp h with hs | hs
    · obtain ⟨hs, hne⟩ := mem_without.mp hs
      exact Or.inl ⟨hs, fun he => absurd he hne⟩
    · obtain rfl := List.mem_singleton.mp hs
      exact Or.inr ⟨rfl, rfl, rfl⟩

theorem started_without (store : SessionStore) (now : Instant) (id : Uuid) (actor : Actor)
    (token : Uuid) : ((store.without token).started now id actor).without token =
      (store.started now id actor).without token := by
  have httl : (store.without token).ttl = store.ttl := rfl
  unfold started create
  rw [httl]
  cases now.plusSeconds? store.ttl with
  | none => exact without_self store token
  | some expiry =>
    rw [without_without store token id]
    unfold without
    simp only [List.filter_append, List.filter_filter, ← Bool.and_assoc, Bool.and_self]

end AdminConsole.SessionStore
