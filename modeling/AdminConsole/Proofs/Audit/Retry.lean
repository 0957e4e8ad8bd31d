import AdminConsole.Proofs.Audit.Collector

/-! # Where a delivery ends, and when its attempts are made

Attempts are counted from one and pauses from the attempt that they follow, so
the number of the last attempt, the number that the result tells and the number
of pauses must be kept apart.  A delivery ends with the first attempt that
succeeds, fails for good or is the last one allowed (`RetryPolicy.EndsAt`,
`Delivers.ends`).  Each attempt is made when the pauses before it are over
(`Delivers.attemptedAt_eq`).

A pause is never longer than `RetryPolicy.longestPause`, whatever the policy
lists, so a list with a longer one is not kept to
(`RetryPolicy.cuts_long_pauses`).
-/
namespace AdminConsole

/-! ## One attempt -/

/-- The result of a delivery that ends with the attempt of a number. -/
def DeliveryResult.ofAttempt (id : Uuid) (attempt : Nat) :
    Except DeliveryError Unit → DeliveryResult
  | .ok () => .ok { recordId := id, attempts := attempt }
  | .error e => .error (.exhausted attempt e.message)

namespace RetryPolicy

/-- There is nothing to follow an attempt of the number that ended so. -/
inductive EndsAt (p : RetryPolicy) (attempt : Nat) : Except DeliveryError Unit → Prop
  | success : EndsAt p attempt (.ok ())
  | refused {e : DeliveryError} : e.isRetryable = false → EndsAt p attempt (.error e)
  | last {outcome : Except DeliveryError Unit} : attempt = p.attemptLimit → EndsAt p attempt outcome

variable {p : RetryPolicy} {id : Uuid} {attempt : Nat} {outcome : Except DeliveryError Unit}

theorem verdict_of_endsAt (h : p.EndsAt attempt outcome) :
    p.verdict id attempt outcome = .finished (.ofAttempt id attempt outcome) := by
  cases outcome with
  | ok u => rfl
  | error e =>
    have hno : ¬ (e.isRetryable = true ∧ attempt < p.attemptLimit) := by
      rintro ⟨hretry, hless⟩
      cases h with
      | refused hfinal => exact Bool.false_ne_true (hfinal.symm.trans hretry)
      | last hlast => exact Nat.ne_of_lt hless hlast
    rw [verdict, dif_neg hno, DeliveryResult.ofAttempt]

theorem verdict_of_not_endsAt (id : Uuid) (hlimit : attempt ≤ p.attemptLimit)
    (h : ¬ p.EndsAt attempt outcome) :
    ∃ allowed, p.verdict id attempt outcome = .retryAfter (p.pauseAfter attempt) allowed := by
  cases outcome with
  | ok u => exact absurd EndsAt.success h
  | error e =>
    have hretry : e.isRetryable = true := by
      cases hfinal : e.isRetryable with
      | true => rfl
      | false => exact absurd (EndsAt.refused hfinal) h
    have hless : attempt < p.attemptLimit :=
      Nat.lt_of_le_of_ne hlimit fun hlast => h (EndsAt.last hlast)
    exact ⟨hless, by rw [verdict, dif_pos ⟨hretry, hless⟩]⟩

theorem endsAt_of_finished {result : DeliveryResult} (hlimit : attempt ≤ p.attemptLimit)
    (h : p.verdict id attempt outcome = .finished result) :
    p.EndsAt attempt outcome ∧ result = .ofAttempt id attempt outcome := by
  by_cases hends : p.EndsAt attempt outcome
  · exact ⟨hends, Verdict.finished.inj (h.symm.trans (verdict_of_endsAt hends))⟩
  · obtain ⟨_, hretry⟩ := verdict_of_not_endsAt id hlimit hends
    cases h.symm.trans hretry

theorem not_endsAt_of_retryAfter {delay : Nat} {allowed : attempt < p.attemptLimit}
    (h : p.verdict id attempt outcome = .retryAfter delay allowed) :
    ¬ p.EndsAt attempt outcome ∧ delay = p.pauseAfter attempt := by
  have hends : ¬ p.EndsAt attempt outcome := by
    intro hends
    cases h.symm.trans (verdict_of_endsAt hends)
  obtain ⟨_, hretry⟩ := verdict_of_not_endsAt id (Nat.le_of_lt allowed) hends
  exact ⟨hends, (Verdict.retryAfter.inj (h.symm.trans hretry))⟩

/-! ## Pauses -/

/-- The pauses that follow the failed attempts, by their numbers, are those that the policy lists:
one after the other and then the last one again and again, each cut short where it is too long. -/
structure Pauses (p : RetryPolicy) (pause : Nat → Nat) : Prop where
  listed : ∀ i d, p.delays[i]? = some d → pause (i + 1) = min d longestPause
  outrun : ∀ i d, p.delays.getLast? = some d → p.delays.length < i → pause i = min d longestPause
  unlisted : p.delays = [] → ∀ i, pause i = 0

theorem pauses_pauseAfter (p : RetryPolicy) : p.Pauses p.pauseAfter where
  listed i d h := by rw [pauseAfter, delayAfter, Nat.add_sub_cancel, h]
  outrun i d h hi := by
    have hnone : p.delays[i - 1]? = none := List.getElem?_eq_none (by omega)
    rw [pauseAfter, delayAfter, hnone, h]
    rfl
  unlisted h i := by
    rw [pauseAfter, delayAfter, h]
    rfl

/-- How long all pauses last together that come before the attempt after `n` failed ones. -/
def pausesBefore (p : RetryPolicy) : (n : Nat) → Nat
  | 0 => 0
  | n + 1 => p.pausesBefore n + p.pauseAfter (n + 1)

end RetryPolicy

/-! ## Whole deliveries -/

namespace Delivers

variable {p : RetryPolicy} {id : Uuid} {outcome : Nat → Except DeliveryError Unit}
  {attempt clock i : Nat} {run : DeliveryRun}

/-- **A delivery ends with the first attempt that nothing can follow.** -/
theorem ends (h : Delivers p id outcome attempt clock run) (hlimit : attempt ≤ p.attemptLimit) :
    ∃ k, attempt + run.attempts = k + 1 ∧ k ≤ p.attemptLimit ∧ p.EndsAt k (outcome k) ∧
      (∀ j, attempt ≤ j → j < k → ¬ p.EndsAt j (outcome j)) ∧
      run.result = .ofAttempt id k (outcome k) := by
  induction h with
  | @last attempt clock result hfinished =>
    obtain ⟨hends, hresult⟩ := RetryPolicy.endsAt_of_finished hlimit hfinished
    refine ⟨attempt, rfl, hlimit, hends, ?_, hresult⟩
    intro j hfrom hto
    omega
  | @more attempt clock delay allowed run hretry _ ih =>
    obtain ⟨k, hk, hle, hends, hearlier, hresult⟩ := ih allowed
    have hcount : (run.precededBy clock).attempts = run.attempts + 1 := rfl
    refine ⟨k, by omega, hle, hends, ?_, hresult⟩
    intro j hfrom hto
    rcases Nat.eq_or_lt_of_le hfrom with rfl | hlater
    · exact (RetryPolicy.not_endsAt_of_retryAfter hretry).1
    · exact hearlier j hlater hto

/-- **Every attempt is made when the pauses before it are over.** -/
theorem attemptedAt_eq (h : Delivers p id outcome (i + 1) (p.pausesBefore i) run) :
    run.attemptedAt = (List.range' i run.attempts).map p.pausesBefore := by
  -- The clock of a later attempt must be known again as a sum of pauses, so it stays tied to the
  -- number of the attempt throughout the induction.
  generalize hattempt : i + 1 = attempt, hclock : p.pausesBefore i = clock at h
  induction h generalizing i with
  | last _ =>
    subst hclock
    rfl
  | @more attempt clock delay allowed run hretry _ ih =>
    subst hattempt hclock
    have hdelay : delay = p.pauseAfter (i + 1) := (RetryPolicy.not_endsAt_of_retryAfter hretry).2
    have hrest := ih (i := i + 1) rfl (by rw [RetryPolicy.pausesBefore, hdelay])
    show p.pausesBefore i :: run.attemptedAt = _
    rw [hrest]
    rfl

end Delivers

/-! ## The channel of a delivery -/

/-- A channel that keeps the records with which it is called, and whose calls, counted from one, end
as `outcome` says. -/
def callWith (outcome : Nat → Except DeliveryError Unit) (r : AuditRecord) :
    StateM (List AuditRecord) (Except DeliveryError Unit) :=
  fun calls => (outcome (calls.length + 1), calls ++ [r])

/-- A delivery is a chain of attempts, and each of them is one call with the record. -/
theorem deliver_callWith (p : RetryPolicy) (r : AuditRecord)
    (outcome : Nat → Except DeliveryError Unit) :
    ∃ run, Delivers p r.id outcome 1 0 run ∧
      (deliver p r.id fun _ => callWith outcome r).run [] =
        (run, List.replicate run.attempts r) := by
  obtain ⟨run, hrun, hdeliver⟩ :=
    @deliverFrom_logged AuditRecord p r.id outcome (fun _ => r) (fun _ => callWith outcome r)
      (fun _ => rfl) 0 []
  refine ⟨run, hrun, hdeliver.trans ?_⟩
  rw [List.nil_append, List.map_const', List.length_range']

namespace RetryPolicy

/-- A delivery that makes `k` attempts: the run that it has, and the calls of the channel. -/
structure Settles (p : RetryPolicy) (r : AuditRecord) (outcome : Nat → Except DeliveryError Unit)
    (k : Nat) (run : DeliveryRun) (calls : List AuditRecord) : Prop where
  /-- There is an attempt, and there are no more than are allowed. -/
  inLimits : 1 ≤ k ∧ k ≤ p.attemptLimit
  /-- The last attempt is the first one that nothing can follow. -/
  ends : p.EndsAt k (outcome k) ∧ ∀ j, 1 ≤ j → j < k → ¬ p.EndsAt j (outcome j)
  result : run.result = .ofAttempt r.id k (outcome k)
  calls : calls = List.replicate k r
  /-- The attempts are made when the pauses before them are over. -/
  times : run.attemptedAt = (List.range k).map p.pausesBefore

end RetryPolicy

end AdminConsole
