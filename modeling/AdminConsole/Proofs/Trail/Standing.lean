import AdminConsole.Model.Sample
import AdminConsole.Proofs.Action.Effect

/-! # The standing of things

The **standing** of the data is the part of it that actions are meant to decide:
which members there are, who is banned or verified, how far a report has come
and with whom, what is refunded, what is paused, and who holds which role.
Names, notes, reasons and times are not in it.

When no section lists an identifier twice, the first thing with an identifier is
the only one, and an action reaches it wherever it stands in the list.  Then
what an action does to a section is a map or a filter over all of it
(`Listing.Turned.eq_redo`, `Listing.Removed.eq_drop`), and both can be done on
any data of the same standing instead (`Listing.Column.redo_congr`,
`Listing.Column.drop_congr`).
-/
namespace AdminConsole

/-- What actions decide about the things that the data lists. -/
structure Standing where
  members : List (Uuid × AccountStatus × Bool)
  reports : List (Uuid × ReportStatus × Bool × Option Uuid)
  payments : List (Uuid × PaymentStatus)
  campaigns : List (Uuid × CampaignStatus)
  team : List (Uuid × Role)
  deriving DecidableEq

/-- Who the member is, whether it is banned and whether it is verified. -/
def Member.standing (m : Member) : Uuid × AccountStatus × Bool := (m.id, m.status, m.verified)

/-- How far the report has come, whether the content is down, and who handles it. -/
def Report.standing (r : Report) : Uuid × ReportStatus × Bool × Option Uuid :=
  (r.id, r.status, r.contentRemoved, r.handledBy)

/-- Whether the payment is refunded. -/
def Payment.standing (p : Payment) : Uuid × PaymentStatus := (p.id, p.status)

/-- Whether the campaign is paused. -/
def Campaign.standing (c : Campaign) : Uuid × CampaignStatus := (c.id, c.status)

/-- The role of the operator. -/
def TeamMember.standing (t : TeamMember) : Uuid × Role := (t.id, t.role)

namespace Data

/-- The standing of everything that the data lists, in order. -/
def standing (d : Data) : Standing where
  members := d.members.map Member.standing
  reports := d.reports.map Report.standing
  payments := d.payments.map Payment.standing
  campaigns := d.campaigns.map Campaign.standing
  team := d.team.map TeamMember.standing

/-- No section lists two things with one identifier. -/
structure DistinctIds (d : Data) : Prop where
  members : (d.members.map Entity.id).Nodup
  reports : (d.reports.map Entity.id).Nodup
  payments : (d.payments.map Entity.id).Nodup
  campaigns : (d.campaigns.map Entity.id).Nodup
  team : (d.team.map Entity.id).Nodup

/-- The console starts with distinct identifiers. -/
theorem distinctIds_sample : Sample.data.DistinctIds := by
  constructor <;> decide

end Data

/-! ## Sections as a whole -/

section Lists

variable {α β : Type} [Entity α] {target : Uuid} {pre post : List α} {a : α}

/-- Where identifiers are distinct, nothing else has that of a thing in the list. -/
theorem id_ne_of_nodup (h : ((pre ++ a :: post).map Entity.id).Nodup) :
    ∀ x ∈ pre ++ post, Entity.id x ≠ Entity.id a := by
  intro x hx he
  rw [List.map_append, List.map_cons] at h
  -- Where the thing stands does not matter for its identifier being the only one.
  have hperm := List.perm_middle.nodup_iff.mp h
  rw [List.nodup_cons, ← List.map_append] at hperm
  exact hperm.1 (List.mem_map.mpr ⟨x, hx, he⟩)

theorem map_target (h : ((pre ++ a :: post).map Entity.id).Nodup) (ha : Entity.id a = target)
    (f : α → α) : (pre ++ a :: post).map (fun x => if Entity.id x = target then f x else x) =
      pre ++ f a :: post := by
  subst ha
  have hother : ∀ x ∈ pre ++ post, (if Entity.id x = Entity.id a then f x else x) = x :=
    fun x hx => if_neg (id_ne_of_nodup h x hx)
  have hpre : pre.map (fun x => if Entity.id x = Entity.id a then f x else x) = pre :=
    (List.map_congr_left fun x hx => hother x (List.mem_append_left _ hx)).trans (List.map_id _)
  have hpost : post.map (fun x => if Entity.id x = Entity.id a then f x else x) = post :=
    (List.map_congr_left fun x hx => hother x (List.mem_append_right _ hx)).trans (List.map_id _)
  rw [List.map_append, List.map_cons, hpre, hpost, if_pos rfl]

theorem filter_target (h : ((pre ++ a :: post).map Entity.id).Nodup) (ha : Entity.id a = target) :
    (pre ++ a :: post).filter (fun x => decide (Entity.id x ≠ target)) = pre ++ post := by
  subst ha
  have hother : ∀ x ∈ pre ++ post, decide (Entity.id x ≠ Entity.id a) = true :=
    fun x hx => decide_eq_true (id_ne_of_nodup h x hx)
  rw [List.filter_append, List.filter_cons_of_neg (by simp), ← List.filter_append]
  exact List.filter_eq_self.mpr hother

omit [Entity α] in
/-- Lists that look alike still look alike after what respects the look. -/
theorem map_view_congr {view : α → β} {f g : α → α}
    (hfg : ∀ x y, view x = view y → view (f x) = view (g y)) {xs ys : List α}
    (h : xs.map view = ys.map view) : (xs.map f).map view = (ys.map g).map view := by
  induction xs generalizing ys with
  | nil =>
    obtain rfl := List.map_eq_nil_iff.mp h.symm
    rfl
  | cons x xs ih =>
    cases ys with
    | nil => cases h
    | cons y ys =>
      obtain ⟨hxy, hrest⟩ := List.cons.inj h
      show view (f x) :: (xs.map f).map view = view (g y) :: (ys.map g).map view
      rw [hfg x y hxy, ih hrest]

omit [Entity α] in
theorem filter_view_congr {view : α → β} {p : α → Bool}
    (hp : ∀ x y, view x = view y → p x = p y) {xs ys : List α}
    (h : xs.map view = ys.map view) : (xs.filter p).map view = (ys.filter p).map view := by
  induction xs generalizing ys with
  | nil =>
    obtain rfl := List.map_eq_nil_iff.mp h.symm
    rfl
  | cons x xs ih =>
    cases ys with
    | nil => cases h
    | cons y ys =>
      obtain ⟨hxy, hrest⟩ := List.cons.inj h
      rw [List.filter_cons, List.filter_cons, hp x y hxy]
      split
      · rw [List.map_cons, List.map_cons, hxy, ih hrest]
      · exact ih hrest

end Lists

namespace Listing

variable {α β : Type} [Entity α] {l : Listing α} {target : Uuid} {d d' e : Data}

/-- Everything with the identifier is changed. -/
def redo (l : Listing α) (target : Uuid) (f : α → α) (d : Data) : Data :=
  l.put ((l.items d).map fun a => if Entity.id a = target then f a else a) d

/-- Everything with the identifier is removed. -/
def drop (l : Listing α) (target : Uuid) (d : Data) : Data :=
  l.put ((l.items d).filter fun a => decide (Entity.id a ≠ target)) d

theorem Turned.eq_redo {before : α → Prop} {after : α → α} {result : Affected}
    (h : l.Turned target before after d result d') (hd : ((l.items d).map Entity.id).Nodup) :
    d' = l.redo target after d := by
  obtain ⟨a, -, ⟨pre, post, hitems, -, ha, rfl⟩, -⟩ := h
  rw [hitems] at hd
  unfold redo
  rw [hitems, map_target hd ha]

theorem Removed.eq_drop {a : α} (h : l.Removed target a d d')
    (hd : ((l.items d).map Entity.id).Nodup) : d' = l.drop target d := by
  obtain ⟨pre, post, hitems, -, ha, rfl⟩ := h
  rw [hitems] at hd
  unfold drop
  rw [hitems, filter_target hd ha]

/-- How a section shows in the standing of the data, and that it has its part in the distinctness of
identifiers. -/
structure Column (l : Listing α) (β : Type) where
  view : α → β
  put : List β → Standing → Standing
  part : Standing → List β
  id_eq : ∀ a b, view a = view b → Entity.id a = Entity.id b
  distinct : ∀ d : Data, d.DistinctIds → ((l.items d).map Entity.id).Nodup
  distinct_put : ∀ (d : Data) xs, d.DistinctIds → (xs.map Entity.id).Nodup →
    (l.put xs d).DistinctIds
  standing_put : ∀ xs d, (l.put xs d).standing = put (xs.map view) d.standing := by intros; rfl
  part_standing : ∀ d, part d.standing = (l.items d).map view := by intros; rfl

namespace Column

variable (k : l.Column β)

theorem map_view_eq (h : e.standing = d.standing) :
    (l.items e).map k.view = (l.items d).map k.view := by
  rw [← k.part_standing, h, k.part_standing]

/-- Data of the same standing has the same standing after changes that look alike. -/
theorem redo_congr (h : e.standing = d.standing) {f g : α → α}
    (hfg : ∀ a b, k.view a = k.view b → k.view (f a) = k.view (g b)) :
    (l.redo target f e).standing = (l.redo target g d).standing := by
  unfold redo
  rw [k.standing_put, k.standing_put, h]
  congr 1
  -- Both are changed or neither is, since identifiers show.
  refine map_view_congr (fun a b hab => ?_) (k.map_view_eq h)
  rw [k.id_eq a b hab]
  split
  · exact hfg a b hab
  · exact hab

include k in
theorem drop_congr (h : e.standing = d.standing) :
    (l.drop target e).standing = (l.drop target d).standing := by
  unfold drop
  rw [k.standing_put, k.standing_put, h]
  congr 1
  refine filter_view_congr (fun a b hab => ?_) (k.map_view_eq h)
  rw [k.id_eq a b hab]

/-- A change that does not show leaves the standing as it was. -/
theorem standing_redo {f : α → α} (hf : ∀ a, k.view (f a) = k.view a) :
    (l.redo target f d).standing = d.standing := by
  have hview : ((l.items d).map fun a => if Entity.id a = target then f a else a).map k.view =
      (l.items d).map k.view := by
    rw [List.map_map]
    refine List.map_congr_left fun a _ => ?_
    show k.view (if Entity.id a = target then f a else a) = k.view a
    split
    · exact hf a
    · rfl
  unfold redo
  rw [k.standing_put, hview, ← k.standing_put, l.put_items]

include k in
theorem distinct_redo (hd : d.DistinctIds) {f : α → α} (hf : ∀ a, Entity.id (f a) = Entity.id a) :
    (l.redo target f d).DistinctIds := by
  refine k.distinct_put d _ hd ?_
  have hids : ((l.items d).map fun a => if Entity.id a = target then f a else a).map Entity.id =
      (l.items d).map Entity.id := by
    rw [List.map_map]
    refine List.map_congr_left fun a _ => ?_
    show Entity.id (if Entity.id a = target then f a else a) = Entity.id a
    split
    · exact hf a
    · rfl
  rw [hids]
  exact k.distinct d hd

include k in
theorem distinct_drop (hd : d.DistinctIds) : (l.drop target d).DistinctIds :=
  k.distinct_put d _ hd ((k.distinct d hd).sublist (List.filter_sublist.map _))

end Column

/-! ## The five sections -/

/-- The members as a part of the standing. -/
def members.column : members.Column (Uuid × AccountStatus × Bool) where
  view := Member.standing
  put xs s := { s with members := xs }
  part := Standing.members
  id_eq _ _ h := congrArg Prod.fst h
  distinct _ h := h.members
  distinct_put _ _ h hxs := { h with members := hxs }

/-- The reports as a part of the standing. -/
def reports.column : reports.Column (Uuid × ReportStatus × Bool × Option Uuid) where
  view := Report.standing
  put xs s := { s with reports := xs }
  part := Standing.reports
  id_eq _ _ h := congrArg Prod.fst h
  distinct _ h := h.reports
  distinct_put _ _ h hxs := { h with reports := hxs }

/-- The payments as a part of the standing. -/
def payments.column : payments.Column (Uuid × PaymentStatus) where
  view := Payment.standing
  put xs s := { s with payments := xs }
  part := Standing.payments
  id_eq _ _ h := congrArg Prod.fst h
  distinct _ h := h.payments
  distinct_put _ _ h hxs := { h with payments := hxs }

/-- The campaigns as a part of the standing. -/
def campaigns.column : campaigns.Column (Uuid × CampaignStatus) where
  view := Campaign.standing
  put xs s := { s with campaigns := xs }
  part := Standing.campaigns
  id_eq _ _ h := congrArg Prod.fst h
  distinct _ h := h.campaigns
  distinct_put _ _ h hxs := { h with campaigns := hxs }

/-- The team as a part of the standing. -/
def team.column : team.Column (Uuid × Role) where
  view := TeamMember.standing
  put xs s := { s with team := xs }
  part := Standing.team
  id_eq _ _ h := congrArg Prod.fst h
  distinct _ h := h.team
  distinct_put _ _ h hxs := { h with team := hxs }

end Listing

end AdminConsole
