import AdminConsole.Audit.Collector
import AdminConsole.Proofs.Audit.Delivery

/-! # What the audit service receives

The requests of one delivery are those of its attempts, one for each, so they
are all the same request: the record is written, keyed and signed once and for
all, and the signature is over the very bytes that are sent.  What makes a
delivery go on is what a reply means for the attempt, and only the few statuses
of a passing trouble mean that it may.
-/
namespace AdminConsole

namespace Collector

/-- The request is one for the record: it has the record as its body, the identifier and the action
of the record beside that, and, if there is a secret, the signature of its own body. -/
structure Carries (secret : Option String) (r : AuditRecord) (q : CollectorRequest) : Prop where
  body : q.body = r.wire
  contentType : q.contentType = "application/json"
  key : q.idempotencyKey = r.id.text
  action : q.action = r.action
  unsigned : secret = none → q.signature = none
  signed : ∀ s, secret = some s → q.signature = some (Signature.header s (Utf8.encode q.body))

theorem carries_request (secret : Option String) (r : AuditRecord) :
    Carries secret r (request secret r) where
  body := rfl
  contentType := rfl
  key := rfl
  action := rfl
  unsigned h := by rw [h]; rfl
  signed s h := by rw [h]; rfl

/-- A status after which a delivery may go on: 408, 429, or one from 500 to 599. -/
def IsPassing (code : Nat) : Prop := code = 408 ∨ code = 429 ∨ 500 ≤ code ∧ code ≤ 599

/-- A status that is worth another attempt tells of a passing trouble. -/
theorem isPassing_of_retryable {code : Nat} {e : DeliveryError} (h : classify code = .error e)
    (hretry : e.isRetryable = true) : IsPassing code := by
  unfold classify at h
  split at h
  · cases h
  · split at h
    · next htransient =>
      simp only [isTransient, Bool.or_eq_true, Bool.and_eq_true, beq_iff_eq,
        decide_eq_true_eq] at htransient
      unfold IsPassing
      omega
    · obtain rfl := Except.error.inj h
      cases hretry

/-- What an attempt does, if its action can stand in a header. -/
theorem run_attempt {r : AuditRecord} (h : isHeaderText r.action = true) (secret : Option String)
    (reply : CollectorReply) (made : List Exchange) :
    (attempt secret r reply).run made =
      (outcome reply, made ++ [{ request := request secret r, reply := reply }]) := by
  rw [attempt, if_pos h]
  rfl

/-- A delivery is a chain of attempts, and each of them is one exchange. -/
theorem deliver_eq {r : AuditRecord} (h : isHeaderText r.action = true) (p : RetryPolicy)
    (secret : Option String) (reply : Nat → CollectorReply) :
    ∃ run, Delivers p r.id (fun k => outcome (reply k)) 1 0 run ∧
      deliver p secret r reply = (run, (List.range' 1 run.attempts).map fun k =>
        { request := request secret r, reply := reply k }) :=
  deliverFrom_logged p r.id (fun made => run_attempt h secret (reply (made.length + 1)) made) 0 []

/-- What the service sees of a delivery that comes to the result: the exchanges, in order. -/
structure Receives (secret : Option String) (r : AuditRecord) (reply : Nat → CollectorReply)
    (result : DeliveryResult) (made : List Exchange) : Prop where
  /-- Every request is one for the record. -/
  carried : ∀ e ∈ made, Carries secret r e.request
  /-- The result tells how many requests there were. -/
  counted : DeliveryResult.attempts? result = some made.length
  /-- The requests got the first of the replies, in order, and there was one. -/
  answered : made.map Exchange.reply = (List.range' 1 made.length).map reply ∧ made ≠ []
  /-- A request that is followed by another one was not answered with a status, or with one of a
  passing trouble. -/
  followed : ∀ k e, made[k]? = some e → k + 1 < made.length →
    ∀ code, e.reply = .status code → IsPassing code

/-- **The requests of a delivery.**  A record whose action can stand in a header is delivered under
any policy, with or without a secret, to a service that replies to each attempt in any way: the
service receives the record once for each attempt, always in the same request, and nothing after a
success or a refusal. -/
theorem requests_of_delivery (p : RetryPolicy) (secret : Option String) (r : AuditRecord)
    (reply : Nat → CollectorReply) (h : isHeaderText r.action = true) :
    Receives secret r reply (deliver p secret r reply).1.result (deliver p secret r reply).2 := by
  obtain ⟨run, hrun, hdeliver⟩ := deliver_eq h p secret reply
  have hpos : 0 < run.attempts := hrun.attempts_pos
  rw [hdeliver]
  constructor
  case carried =>
    intro e he
    obtain ⟨k, -, rfl⟩ := List.mem_map.mp he
    exact carries_request secret r
  case counted =>
    rw [hrun.attempts?_result, List.length_map, List.length_range']
    congr 1
    omega
  case answered =>
    refine ⟨?_, ?_⟩
    · rw [List.map_map, List.length_map, List.length_range']
      rfl
    · intro hnil
      have hlength := congrArg List.length hnil
      rw [List.length_map, List.length_range', List.length_nil] at hlength
      omega
  case followed =>
    intro k e he hmore code hcode
    rw [List.length_map, List.length_range'] at hmore
    rw [List.getElem?_map, List.getElem?_range' (by omega), Option.map_some] at he
    obtain rfl := Option.some.inj he
    obtain ⟨failure, hfailure, hretry⟩ := hrun.retryable hmore
    have hreply : reply (1 + k) = .status code := by
      rw [← hcode]
      congr 1
      omega
    rw [hreply] at hfailure
    exact isPassing_of_retryable hfailure hretry

/-- A service that is overloaded, then silent, and then takes the record. -/
def sampleReply : Nat → CollectorReply
  | 1 => .status 503
  | 2 => .timeout
  | _ => .status 202

/-- The record of a ban. -/
def sampleRecord : AuditRecord where
  id := .ofNat 1
  action := "users.ban"
  actor := { id := .ofNat 2, role := .moderator }
  target := some "u-42"
  ip := "203.0.113.7"
  device := "Firefox"
  timestamp := ⟨1717200000, 123456789⟩

/-- The first two replies are worth another attempt, and the third is not. -/
theorem delivers_sample : ∃ run, run.attempts = 3 ∧
    Delivers ⟨5, [1]⟩ sampleRecord.id (fun k => outcome (sampleReply k)) 1 0 run :=
  ⟨_, rfl, Delivers.more rfl (Delivers.more rfl (Delivers.last rfl))⟩

theorem requests_of_delivery_sample :
    isHeaderText sampleRecord.action = true ∧
      (deliver ⟨5, [1]⟩ (some "secret") sampleRecord sampleReply).2.length = 3 ∧
      Receives (some "secret") sampleRecord sampleReply
        (deliver ⟨5, [1]⟩ (some "secret") sampleRecord sampleReply).1.result
        (deliver ⟨5, [1]⟩ (some "secret") sampleRecord sampleReply).2 := by
  have h : isHeaderText sampleRecord.action = true := by decide
  refine ⟨h, ?_, requests_of_delivery _ _ _ _ h⟩
  obtain ⟨run, hrun, hdeliver⟩ := deliver_eq h ⟨5, [1]⟩ (some "secret") sampleReply
  obtain ⟨run', hattempts, hrun'⟩ := delivers_sample
  rw [hdeliver, hrun'.unique hrun, List.length_map, List.length_range', hattempts]

end Collector

end AdminConsole
