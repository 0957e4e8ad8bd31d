import AdminConsole.Proofs.Page.Render

/-! # Buttons and gates

What an action takes is said twice: at the gate of the action, and once more on
each page that has a button for it.  Neither reads the other.  The two agree
button by button (`Section.permission_eq`), so a button is enabled exactly if its
gate is open, for whatever the action is then asked to do.  And a page has the
buttons of all actions on the things that it shows.
-/
namespace AdminConsole

/-- The buttons on the pages of a section. -/
def Section.buttons : Section → List Button
  | members => Button.ofMembers
  | reports => Button.ofReports
  | payments => Button.ofPayments
  | campaigns => Button.ofCampaigns
  | team => Button.ofRoles
  | settings => Button.ofSettings
  | engagement | revenue | totals => []

/-- The buttons on the page that is asked for. -/
def PageRequest.buttons (request : PageRequest) : List Button :=
  request.section?.elim [] Section.buttons

/-- The buttons on a page as the actor sees them. -/
def Page.controls : Page → List Control
  | members p => p.controls
  | member p => p.controls
  | moderation p => p.controls
  | payments p => p.controls
  | ads p => p.controls
  | roles p => p.controls
  | settings p => p.controls
  | overview _ | engagement _ | revenue _ | audit _ => []

variable {overflow : Overflow} {actor : Actor} {c : Console} {request : PageRequest} {page : Page}
  {b : Button}

/-! ## The two tables -/

/-- A button is shown with the permission for which the gate of its action asks. -/
theorem Section.permission_eq (s : Section) : ∀ b ∈ s.buttons, b.permission = b.kind.permission := by
  cases s <;> decide

/-- A section has a button for every action on its things. -/
theorem Section.exists_button (kind : ActionKind) : ∃ b ∈ kind.place.buttons, b.kind = kind := by
  cases kind <;> decide

theorem PageRequest.permission_eq (h : b ∈ request.buttons) : b.permission = b.kind.permission := by
  unfold PageRequest.buttons at h
  cases hsection : request.section? with
  | none =>
      rw [hsection] at h
      cases h
  | some s =>
      rw [hsection] at h
      exact s.permission_eq b h

theorem PageRequest.exists_control {kind : ActionKind} (actor : Actor)
    (h : request.section? = some kind.place) :
    ∃ control ∈ AdminConsole.controls actor request.buttons, control.action = kind.name := by
  obtain ⟨b, hb, rfl⟩ := Section.exists_button kind
  refine ⟨b.control actor, List.mem_map_of_mem ?_, rfl⟩
  unfold PageRequest.buttons
  rw [h]
  exact hb

theorem Section.section?_page {s : Section} (h : s.page? = some request) :
    request.section? = some s ∧ request.permission = s.permission := by
  cases s with
  | engagement | revenue | totals => cases h
  | _ =>
      obtain rfl := Option.some.inj h
      exact ⟨rfl, rfl⟩

theorem ActionKind.exists_page (kind : ActionKind) : ∃ request, kind.place.page? = some request := by
  cases kind <;> exact ⟨_, rfl⟩

/-- No two kinds of action have the same name. -/
theorem ActionKind.name_inj {kind kind' : ActionKind} (h : kind.name = kind'.name) :
    kind = kind' := by
  have hread := ofName?_name kind
  rw [h, ofName?_name kind'] at hread
  exact (Option.some.inj hread).symm

/-! ## Buttons on a page -/

namespace Console

theorem controls_of_render (h : c.render overflow actor request = .ok (.ok page)) :
    page.controls = AdminConsole.controls actor request.buttons := by
  cases request with
  | member id =>
      simp only [render] at h
      split at h
      · next p hfound =>
        cases h
        obtain ⟨m, -, rfl⟩ := Option.map_eq_some_iff.mp hfound
        rfl
      · cases h
  | payments =>
      obtain ⟨p, hp, hpage⟩ := exists_ok_of_map h
      cases hpage
      exact (PaymentsPage.payments_of_ok hp).2
  | ads =>
      obtain ⟨p, hp, hpage⟩ := exists_ok_of_map h
      cases hpage
      exact (AdsPage.of_ok hp).2.2.2
  | overview | engagement | revenue =>
      obtain ⟨p, -, hpage⟩ := exists_ok_of_map h
      cases hpage
      rfl
  | _ =>
      cases h
      rfl

/-- An action is denied exactly if the role lacks the permission, and then for want of it. -/
theorem perform_denied_iff (actor : Actor) (origin : Origin) (occasion : Occasion) (a : Action)
    (c : Console) (d : AccessDenied) :
    (perform actor origin occasion a c).1 = .ok (.denied d) ↔
      a.kind.permission ∉ actor.role.grants ∧
        d = { required := a.kind.permission, role := actor.role } := by
  rcases perform_cases actor origin occasion a c with
    ⟨hlacks, h⟩ | ⟨hhas, r, -, h⟩ | ⟨hhas, done, data, -, h⟩
  · rw [h]
    constructor
    · intro hdenied
      exact ⟨hlacks, (Gated.denied.inj (Except.ok.inj hdenied)).symm⟩
    · rintro ⟨-, rfl⟩
      rfl
  · rw [h]
    constructor
    · intro hdenied
      cases hdenied
    · rintro ⟨hlacks, -⟩
      exact absurd hhas hlacks
  · rw [h]
    constructor
    · intro hdenied
      cases Except.ok.inj hdenied
    · rintro ⟨hlacks, -⟩
      exact absurd hhas hlacks

/-- A button is enabled exactly if its action is not denied, and a denial names what the button
names. -/
structure Agrees (actor : Actor) (control : Control) (a : Action) : Prop where
  enabled_iff : ∀ origin occasion c, control.enabled = true ↔
    ∀ d, (perform actor origin occasion a c).1 ≠ .ok (.denied d)
  denial : ∀ origin occasion c d, (perform actor origin occasion a c).1 = .ok (.denied d) →
    d = { required := control.permission, role := actor.role }

theorem agrees_of_mem {control : Control} {a : Action}
    (hmem : control ∈ AdminConsole.controls actor request.buttons)
    (ha : a.kind.name = control.action) : Agrees actor control a := by
  obtain ⟨b, hb, rfl⟩ := List.mem_map.mp hmem
  have hkind : a.kind = b.kind := ActionKind.name_inj ha
  have hpermission : b.permission = a.kind.permission := by
    rw [hkind]
    exact PageRequest.permission_eq hb
  have henabled : (b.control actor).enabled = true ↔ a.kind.permission ∈ actor.role.grants := by
    rw [← hpermission]
    exact Actor.can_eq_true
  constructor
  · intro origin occasion c
    rw [henabled]
    constructor
    · intro hhas d hdenied
      exact ((perform_denied_iff actor origin occasion a c d).mp hdenied).1 hhas
    · intro hnever
      by_contra hlacks
      exact hnever _ ((perform_denied_iff actor origin occasion a c _).mpr ⟨hlacks, rfl⟩)
  · intro origin occasion c d hdenied
    rw [((perform_denied_iff actor origin occasion a c d).mp hdenied).2, ← hpermission]
    rfl

/-- **Buttons and gates agree.**  Every button on a page that an actor opens stands for a kind of
action, and is enabled exactly if no action of that kind is denied to the actor, whatever it is about
and whatever the console is like then; a denial names the permission of the button.  A page has a
button for every action on each thing that it shows, and every section on which there are actions is
shown whole on a page, unless a figure on it does not fit. -/
theorem controls_agree_with_gates (overflow : Overflow) (actor : Actor) (c : Console) :
    (∀ request page, c.view overflow actor request = .ok (.ok (.allowed page)) →
      (∀ control ∈ page.controls, (∃ kind : ActionKind, control.action = kind.name) ∧
        ∀ a : Action, a.kind.name = control.action → Agrees actor control a) ∧
      (∀ thing ∈ page.things, ∀ kind : ActionKind, kind.place = thing.place →
        ∃ control ∈ page.controls, control.action = kind.name)) ∧
    (∀ kind : ActionKind, kind.place.permission ∈ actor.role.grants →
      ∃ request, kind.place.page? = some request ∧
        ((∃ page, c.view overflow actor request = .ok (.ok (.allowed page)) ∧
            page.things = c.data.things kind.place ∧
            ∃ control ∈ page.controls, control.action = kind.name) ∨
          kind.place = .campaigns ∧
            c.view overflow actor request = .error .quotientOutOfRange ∨
          overflow = .stops ∧ ¬ c.data.SumsFit kind.place ∧
            c.view overflow actor request = .error .sumOutOfRange)) := by
  constructor
  · intro request page hview
    obtain ⟨-, hrender⟩ := render_of_view hview
    rw [controls_of_render hrender]
    constructor
    · intro control hcontrol
      obtain ⟨b, -, hb⟩ := List.mem_map.mp hcontrol
      refine ⟨⟨b.kind, ?_⟩, fun a ha => agrees_of_mem hcontrol ha⟩
      rw [← hb]
      rfl
    · intro thing hthing kind hplace
      have hshown := things_of_render hrender hthing
      cases hsection : request.section? with
      | none =>
          rw [hsection] at hshown
          cases hshown
      | some s =>
          rw [hsection] at hshown
          have hsame : kind.place = s := hplace.trans (place_of_mem_things hshown)
          rw [← hsame] at hsection
          exact PageRequest.exists_control actor hsection
  · intro kind hmay
    obtain ⟨request, hpage⟩ := kind.exists_page
    obtain ⟨hsection, hpermission⟩ := Section.section?_page hpage
    refine ⟨request, hpage, ?_⟩
    rw [view_of_mem (hpermission ▸ hmay)]
    rcases render_page c overflow actor hpage with
      ⟨page, hrender⟩ | ⟨hplace, hrender⟩ | ⟨hstops, hfit, hrender⟩
    · refine Or.inl ⟨page, ?_, things_of_whole hpage hrender, ?_⟩
      · rw [hrender]
        rfl
      · rw [controls_of_render hrender]
        exact PageRequest.exists_control actor hsection
    · refine Or.inr (Or.inl ⟨hplace, ?_⟩)
      rw [hrender]
      rfl
    · refine Or.inr (Or.inr ⟨hstops, hfit, ?_⟩)
      rw [hrender]
      rfl

end Console

end AdminConsole
