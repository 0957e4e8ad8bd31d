import AdminConsole.Proofs.Action.Frame
import AdminConsole.Proofs.Trail.Course

/-! # The last owner

Owners are counted over the whole team, and the role is given to one operator of
it.  What connects the two is where the operator stands: the others on the two
sides of it have all owners but perhaps one (`TeamMember.owners_at`).  So a
performed action leaves a team with owners with at least one, and that is
refused which would take the role from the only one.
-/
namespace AdminConsole

namespace TeamMember

/-- The owners of a team are those on both sides of an operator, and perhaps the operator. -/
theorem owners_at (pre post : List TeamMember) (t : TeamMember) :
    owners (pre ++ t :: post) = owners (pre ++ post) + if t.role = .owner then 1 else 0 := by
  simp only [owners, List.countP_append, List.countP_cons, beq_iff_eq]
  omega

theorem owners_pos_iff {team : List TeamMember} : 0 < owners team ↔ ∃ t ∈ team, t.role = .owner := by
  simp only [owners, List.countP_pos_iff, beq_iff_eq]

theorem owners_eq_zero_iff {team : List TeamMember} :
    owners team = 0 ↔ ∀ t ∈ team, t.role ≠ .owner := by
  simp only [owners, List.countP_eq_zero, beq_iff_eq]

end TeamMember

/-- A performed action leaves an owner in the team. -/
theorem Action.Effect.owners_pos {actor : Uuid} {now : Instant} {a : Action} {d d' : Data}
    {result : Affected} (h : a.Effect actor now d result d') (hd : 0 < TeamMember.owners d.team) :
    0 < TeamMember.owners d'.team := by
  by_cases hplace : a.kind.place = .team
  · cases a with
    | assignRole id role =>
      obtain ⟨t, ⟨hrole, hlast⟩, ⟨pre, post, hteam, -, -, rfl⟩, -⟩ := h
      have hteam' : d.team = pre ++ t :: post := hteam
      show 0 < TeamMember.owners (pre ++ t.afterAssign role :: post)
      rw [hteam', TeamMember.owners_at] at hd hlast
      rw [TeamMember.owners_at]
      -- An owner who gets another role is not alone; who was none leaves the owners alone.
      by_cases howner : t.role = .owner
      · rw [if_pos howner] at hlast
        have hothers : TeamMember.owners (pre ++ post) ≠ 0 := by
          intro hzero
          exact hlast ⟨howner, by rw [hzero]⟩
        omega
      · rw [if_neg howner] at hd
        omega
    | _ => cases hplace
  · rw [h.beside.team hplace]
    exact hd

/-- The team keeps an owner. -/
theorem Data.Leads.owners_pos {d e : Data} (h : d.Leads e) (hd : 0 < TeamMember.owners d.team) :
    0 < TeamMember.owners e.team :=
  h.keeps (fun heffect hpos => heffect.owners_pos hpos) hd

/-- What comes of an assignment is what comes of it at the operator who is addressed. -/
theorem Action.runAssignRole_outcome (id : Uuid) (role : Role) (d : Data) :
    ((∀ x ∈ d.team, x.id ≠ id) ∧ ((runAssignRole id role).exec d).1 = .error .noOperator) ∨
    ∃ pre t post, d.team = pre ++ t :: post ∧ (∀ x ∈ pre, x.id ≠ id) ∧ t.id = id ∧
      ∀ r, ((runAssignRole id role).exec d).1 = .error r ↔
        ((TeamMember.assign (TeamMember.owners d.team) role).exec t).1 = .error r := by
  have hexec : ((runAssignRole id role).exec d).1 =
      ((Listing.team.edit id (TeamMember.assign (TeamMember.owners d.team) role)).exec d).1.map
        fun p => { p with target := p.target ++ ":" ++ role.tag } := by
    rw [runAssignRole, Edit.exec_bind, Edit.exec_get]
    simp only [Edit.exec_bind]
    rcases (Listing.team.edit id _).exec d with ⟨_ | _, _⟩ <;> rfl
  rcases Listing.team.edit_outcome id (TeamMember.assign (TeamMember.owners d.team) role) d with
    ⟨hnone, h⟩ | ⟨pre, t, post, hteam, hpre, ht, h⟩
  · exact Or.inl ⟨hnone, by rw [hexec, h]; rfl⟩
  · refine Or.inr ⟨pre, t, post, hteam, hpre, ht, fun r => ?_⟩
    rw [hexec, h]
    cases ((TeamMember.assign (TeamMember.owners d.team) role).exec t).1 <;> simp [Except.map]

/-- What is refused as the demotion of the last owner is that and nothing else. -/
theorem Action.runAssignRole_lastOwner_iff (id : Uuid) (role : Role) (d : Data) :
    ((runAssignRole id role).exec d).1 = .error .lastOwner ↔
      role ≠ .owner ∧ ∃ pre t post, d.team = pre ++ t :: post ∧ (∀ x ∈ pre, x.id ≠ id) ∧
        t.id = id ∧ t.role = .owner ∧ ∀ x ∈ pre ++ post, x.role ≠ .owner := by
  have hassign : ∀ (owners : Nat) (t : TeamMember),
      ((TeamMember.assign owners role).exec t).1 = .error .lastOwner ↔
        role ≠ .owner ∧ t.role = .owner ∧ owners = 1 := by
    intro owners t
    rw [(TeamMember.assign_follows owners role).error_iff]
    by_cases hrole : t.role = role
    · rw [if_pos hrole]
      constructor
      · intro h
        cases h
      · rintro ⟨hne, howner, -⟩
        exact absurd (hrole.symm.trans howner) hne
    · rw [if_neg hrole]
      by_cases hlast : t.role = .owner ∧ owners = 1
      · rw [if_pos hlast]
        exact ⟨fun _ => ⟨fun he => hrole (hlast.1.trans he.symm), hlast⟩, fun _ => rfl⟩
      · rw [if_neg hlast]
        constructor
        · intro h
          cases h
        · exact fun h => absurd h.2 hlast
  rcases runAssignRole_outcome id role d with ⟨hnone, h⟩ | ⟨pre, t, post, hteam, hpre, ht, h⟩
  · rw [h]
    constructor
    · intro he
      cases he
    · rintro ⟨-, pre, t, post, hteam, -, ht, -⟩
      exact absurd ht (hnone t (hteam ▸ List.mem_append_right pre List.mem_cons_self))
  · rw [h, hassign, hteam, TeamMember.owners_at]
    constructor
    · rintro ⟨hrole, howner, hone⟩
      rw [if_pos howner, Nat.add_eq_right, TeamMember.owners_eq_zero_iff] at hone
      exact ⟨hrole, pre, t, post, rfl, hpre, ht, howner, hone⟩
    · rintro ⟨hrole, pre', t', post', hteam', hpre', ht', howner, hothers⟩
      -- Both are the first operator with the identifier.
      have hfirst : Entity.find? id (pre ++ t :: post) = some t := Edit.find?_eq_first hpre ht
      rw [hteam', Edit.find?_eq_first hpre' ht'] at hfirst
      obtain rfl := Option.some.inj hfirst
      refine ⟨hrole, howner, ?_⟩
      rw [← TeamMember.owners_at, hteam', TeamMember.owners_at, if_pos howner,
        TeamMember.owners_eq_zero_iff.mpr hothers]

theorem Refusal.error_eq_lastOwner_iff (r : Refusal) :
    r.error = .validation "The last owner cannot be given another role" ↔ r = .lastOwner := by
  cases r <;> simp [error]

namespace Console

/-- **The last owner is never lost.**  From data with an owner in the team, however calls interleave
and whichever orders are obeyed, the team has an owner in every state.  An actor who may manage
roles is told so, and only then, when the operator addressed is the only owner and is to be given
another role. -/
theorem owner_remains (start : Console) (howner : ∃ t ∈ start.data.team, t.role = .owner) :
    (∀ moves, ∃ t ∈ ((Floor.opened start).run moves).console.data.team, t.role = .owner) ∧
    (∀ orders, ∃ t ∈ (start.obeyAll orders).data.team, t.role = .owner) ∧
    ∀ (c : Console) (actor : Actor) origin occasion id role, .manageRoles ∈ actor.role.grants →
      ((∃ r, (perform actor origin occasion (.assignRole id role) c).1 = .error r ∧
          r.error = .validation "The last owner cannot be given another role") ↔
        role ≠ .owner ∧ ∃ pre t post, c.data.team = pre ++ t :: post ∧ (∀ x ∈ pre, x.id ≠ id) ∧
          t.id = id ∧ t.role = .owner ∧ ∀ x ∈ pre ++ post, x.role ≠ .owner) := by
  have hpos : 0 < TeamMember.owners start.data.team := TeamMember.owners_pos_iff.mpr howner
  refine ⟨fun moves => ?_, fun orders => ?_, fun c actor origin occasion id role hp => ?_⟩
  · exact TeamMember.owners_pos_iff.mp ((Floor.leads_run start moves).owners_pos hpos)
  · exact TeamMember.owners_pos_iff.mp ((leads_obeyAll start orders).owners_pos hpos)
  · have hrefused := perform_error_iff (a := .assignRole id role) origin occasion c hp .lastOwner
    rw [← Action.runAssignRole_lastOwner_iff]
    constructor
    · rintro ⟨r, hr, htext⟩
      obtain rfl := r.error_eq_lastOwner_iff.mp htext
      exact hrefused.mp hr
    · intro h
      exact ⟨.lastOwner, hrefused.mpr h, rfl⟩

/-- A second owner is named, and then the two give each other another role at the same time. -/
def sampleQuarrel : List Move :=
  let call (operator target : Nat) (role : Role) : Call :=
    { actor := { id := Sample.operatorId operator, role := .owner }
      origin := { ip := "127.0.0.1", device := "Firefox" }
      action := .assignRole (Sample.operatorId target) role }
  let occasion : Occasion := { now := Sample.daysAgo 0, recordId := .ofNat 1 }
  Floor.wholeCall (call 1 2 .owner) 0 occasion ++
    [.ask (call 1 2 .support), .ask (call 2 1 .support), .turn 1 .check, .turn 2 .check,
      .turn 2 .spawn, .turn 1 .spawn, .turn 2 (.mutate occasion.now),
      .turn 1 (.mutate occasion.now)]

theorem owner_remains_sampleQuarrel :
    (∃ t ∈ sample.data.team, t.role = .owner) ∧
    ((Floor.opened sample).run sampleQuarrel).changes.length = 2 ∧
    ∃ t ∈ ((Floor.opened sample).run sampleQuarrel).console.data.team, t.role = .owner := by
  have howner : ∃ t ∈ sample.data.team, t.role = .owner := by decide
  exact ⟨howner, by decide, (owner_remains sample howner).1 sampleQuarrel⟩

end Console

end AdminConsole
