import AdminConsole.Console
import AdminConsole.Proofs.Action.Effect
import AdminConsole.Proofs.Audit.Outbox

/-! # The gate, the change and the record

An action that is asked for ends in one of three ways (`perform_cases`): the
gate turns the actor away, the action is refused, or it is performed.  In the
first two the console is what it was; in the third the data is what the action
makes of it, and the outbox has received one record more.

The gate looks at the role of the actor and at the kind of the action, and at
nothing else.  So an actor who is turned away learns nothing about the data,
and nothing about whether the rest of the request made sense.
-/
namespace AdminConsole

namespace Actor

theorem can_eq_true {actor : Actor} {p : Permission} : actor.can p = true ↔ p ∈ actor.role.grants := by
  rw [can, decide_eq_true_eq]

end Actor

namespace Console

variable {actor : Actor} {origin : Origin} {occasion : Occasion} {a : Action} {c : Console}

/-! ## The three outcomes -/

/-- A change and its record come together or not at all. -/
theorem commit_cases (actor : Actor) (origin : Origin) (occasion : Occasion) (a : Action)
    (c : Console) :
    (∃ r, (a.run actor.id occasion.now).exec c.data = (.error r, c.data) ∧
      commit actor origin occasion a c = (.error r, c)) ∨
    ∃ done data, (a.run actor.id occasion.now).exec c.data = (.ok done, data) ∧
      commit actor origin occasion a c =
        (.ok { result := done.result, recordId := occasion.recordId },
          { data := data
            outbox := (c.outbox.submit
              (recordOf actor origin occasion a.kind done.target)).2 }) := by
  have hcommit : commit actor origin occasion a c = (do
      let done ← change actor occasion.now a
      let record := recordOf actor origin occasion a.kind done.target
      submit record
      return { result := done.result, recordId := record.id } : Edit Console ActionReceipt).exec c :=
    rfl
  rw [hcommit, Edit.exec_bind, change, Edit.exec_within]
  rcases h : (a.run actor.id occasion.now).exec c.data with ⟨r | done, data⟩
  · -- A refusal skips the submission, and has written nothing before.
    have hdata := Action.run_atomic actor.id occasion.now a c.data data r h
    subst data
    exact Or.inl ⟨r, rfl, rfl⟩
  · exact Or.inr ⟨done, data, rfl, rfl⟩

/-- **An action that is asked for is denied, refused or performed.** -/
theorem perform_cases (actor : Actor) (origin : Origin) (occasion : Occasion) (a : Action)
    (c : Console) :
    (a.kind.permission ∉ actor.role.grants ∧ perform actor origin occasion a c =
      (.ok (.denied { required := a.kind.permission, role := actor.role }), c)) ∨
    (a.kind.permission ∈ actor.role.grants ∧
      ∃ r, (a.run actor.id occasion.now).exec c.data = (.error r, c.data) ∧
        perform actor origin occasion a c = (.error r, c)) ∨
    (a.kind.permission ∈ actor.role.grants ∧
      ∃ done data, (a.run actor.id occasion.now).exec c.data = (.ok done, data) ∧
        perform actor origin occasion a c =
          (.ok (.allowed { result := done.result, recordId := occasion.recordId }),
            { data := data
              outbox := (c.outbox.submit
                (recordOf actor origin occasion a.kind done.target)).2 })) := by
  by_cases hp : a.kind.permission ∈ actor.role.grants
  · have hgate : Gate.check actor a.kind.permission = .ok () := by
      rw [Gate.check, if_pos (Actor.can_eq_true.mpr hp)]
    have hperform : perform actor origin occasion a c =
        ((Gated.allowed (commit actor origin occasion a c).1).transpose,
          (commit actor origin occasion a c).2) := by
      unfold perform Gate.guarded
      rw [hgate]
      rfl
    refine Or.inr ?_
    rcases commit_cases actor origin occasion a c with
      ⟨r, hrun, h⟩ | ⟨done, data, hrun, h⟩
    · exact Or.inl ⟨hp, r, hrun, by rw [hperform, h]; rfl⟩
    · exact Or.inr ⟨hp, done, data, hrun, by rw [hperform, h]; rfl⟩
  · have hgate : Gate.check actor a.kind.permission =
        .error { required := a.kind.permission, role := actor.role } := by
      rw [Gate.check, if_neg (fun h => hp (Actor.can_eq_true.mp h))]
    refine Or.inl ⟨hp, ?_⟩
    unfold perform Gate.guarded
    rw [hgate]
    rfl

/-- Behind the gate, what is refused is what the action refuses. -/
theorem perform_error_iff (origin : Origin) (occasion : Occasion) (c : Console)
    (hp : a.kind.permission ∈ actor.role.grants) (r : Refusal) :
    (perform actor origin occasion a c).1 = .error r ↔
      ((a.run actor.id occasion.now).exec c.data).1 = .error r := by
  rcases perform_cases actor origin occasion a c with
    ⟨hp', -⟩ | ⟨-, r', hrun, h⟩ | ⟨-, done, data, hrun, h⟩
  · exact absurd hp hp'
  · simp only [h, hrun, Except.error.injEq]
  · simp only [h, hrun, reduceCtorEq]

/-- **Only what the gate allows and nothing refuses leaves a trace.**  Whether an action is denied
depends on the role and the kind of the action alone, so that the denied cannot tell one thing or
one argument from another.  Unless the action is performed, data and outbox are what they were; if
it is, the outbox has received exactly one record. -/
theorem perform_traceless_unless_allowed (actor : Actor) (origin : Origin) (occasion : Occasion)
    (a : Action) (c : Console) :
    (∀ d, (perform actor origin occasion a c).1 = .ok (.denied d) ↔
      a.kind.permission ∉ actor.role.grants ∧
        d = { required := a.kind.permission, role := actor.role }) ∧
    (a.kind.permission ∉ actor.role.grants → ∀ origin' occasion' a' c', a'.kind = a.kind →
      (perform actor origin' occasion' a' c').1 = (perform actor origin occasion a c).1) ∧
    ((∀ receipt, (perform actor origin occasion a c).1 ≠ .ok (.allowed receipt)) →
      (perform actor origin occasion a c).2 = c) ∧
    (∀ receipt, (perform actor origin occasion a c).1 = .ok (.allowed receipt) →
      ∃ record, record.id = receipt.recordId ∧ record.action = a.kind.name ∧
        record.actor = actor ∧
        c.outbox.Received record (perform actor origin occasion a c).2.outbox) := by
  refine ⟨fun d => ?_, fun hp origin' occasion' a' c' hkind => ?_, fun hne => ?_,
    fun receipt hok => ?_⟩
  · rcases perform_cases actor origin occasion a c with
      ⟨hp, h⟩ | ⟨hp, r, -, h⟩ | ⟨hp, done, data, -, h⟩
    · rw [h]
      simp only [Except.ok.injEq, Gated.denied.injEq, hp, not_false_eq_true, true_and]
      exact eq_comm
    · simp only [h, reduceCtorEq, hp, not_true_eq_false, false_and]
    · simp only [h, Except.ok.injEq, reduceCtorEq, hp, not_true_eq_false, false_and]
  · rcases perform_cases actor origin occasion a c with ⟨-, h⟩ | ⟨hp', -⟩ | ⟨hp', -⟩
    · rcases perform_cases actor origin' occasion' a' c' with ⟨-, h'⟩ | ⟨hp', -⟩ | ⟨hp', -⟩
      · rw [h, h', hkind]
      · exact absurd (hkind ▸ hp') hp
      · exact absurd (hkind ▸ hp') hp
    · exact absurd hp' hp
    · exact absurd hp' hp
  · rcases perform_cases actor origin occasion a c with
      ⟨-, h⟩ | ⟨-, r, -, h⟩ | ⟨-, done, data, -, h⟩
    · rw [h]
    · rw [h]
    · exact absurd (congrArg Prod.fst h) (hne _)
  · rcases perform_cases actor origin occasion a c with
      ⟨-, h⟩ | ⟨-, r, -, h⟩ | ⟨-, done, data, -, h⟩
    · rw [h] at hok
      cases hok
    · rw [h] at hok
      cases hok
    · rw [h] at hok ⊢
      obtain rfl := Gated.allowed.inj (Except.ok.inj hok)
      exact ⟨_, rfl, rfl, rfl, Outbox.received_submit _ _⟩

end Console

end AdminConsole
