import AdminConsole.Config
import AdminConsole.Proofs.Text.Identifier
import AdminConsole.Proofs.Text.Numeral
import AdminConsole.Proofs.Text.Trim

/-! # What the environment says

Each variable sets one field of the configuration.  `Variable.Denotes` says, for
each variable, which texts stand for which value of its field, and every other
text stands for none.  A variable that is unset, no text, or a text that stands
for no value leaves its field at the standard value (`Environment.value`).

Two things are refused instead: a list of delays with a piece that is no delay,
and a limit of no attempts.  Every other environment is accepted, and what is
made of it is, field by field, what its variables say
(`Config.ofEnvironment_of_readable`).
-/
namespace AdminConsole

namespace Variable

/-- The values of the field that a variable sets. -/
@[reducible] def Value : Variable → Type
  | bindAddress => String
  | trustProxy => Bool
  | defaultRole => Role
  | sessionTtl => Int
  | auditEndpoint => Option String
  | auditSecret => Option String
  | auditTimeout => Nat
  | auditAttempts => Nat
  | auditDelays => List Nat

/-- The text stands for the value. -/
def Denotes : (v : Variable) → String → v.Value → Prop
  | bindAddress, s, address => address = s
  | trustProxy, s, trusted => (s = "true" ∨ s = "1") ∧ trusted = true
  | defaultRole, s, role => s = role.tag
  | sessionTtl, s, n =>
    Numeral.IsInteger s n ∧ Int64.minValue.toInt ≤ n ∧ n ≤ Int64.maxValue.toInt
  | auditEndpoint, s, endpoint => s ≠ "" ∧ endpoint = some s
  | auditSecret, s, secret => s ≠ "" ∧ secret = some s
  | auditTimeout, s, n => Numeral.IsNatural s n ∧ n < UInt64.size
  | auditAttempts, s, n => Numeral.IsNatural s n ∧ n < UInt32.size
  | auditDelays, s, ns =>
    List.Forall₂ (fun piece n => Numeral.IsNatural piece n ∧ n < UInt64.size)
      (Config.delayPieces s) ns

/-- The value of a field that no text sets. -/
def standard : (v : Variable) → v.Value
  | bindAddress => "0.0.0.0:8080"
  | trustProxy => false
  | defaultRole => Role.admin
  | sessionTtl => 28800
  | auditEndpoint => none
  | auditSecret => none
  | auditTimeout => 10
  | auditAttempts => 5
  | auditDelays => [1, 5, 30, 120, 600]

/-- The value that a text stands for. -/
def read? : (v : Variable) → String → Option v.Value
  | bindAddress, s => some s
  | trustProxy, s => if Config.isYes s then some true else none
  | defaultRole, s => Role.ofTag? s
  | sessionTtl, s => (Numeral.integer Numeral.signed64 s).toOption
  | auditEndpoint, s => if s = "" then none else some (some s)
  | auditSecret, s => if s = "" then none else some (some s)
  | auditTimeout, s => (Numeral.natural Numeral.word64 s).toOption
  | auditAttempts, s => (Numeral.natural Numeral.word32 s).toOption
  | auditDelays, s => (Config.delays s).toOption

end Variable

/-- The field that a variable sets. -/
def Config.get (c : Config) : (v : Variable) → v.Value
  | .bindAddress => c.bindAddress
  | .trustProxy => c.trustProxy
  | .defaultRole => c.defaultRole
  | .sessionTtl => c.sessionTtl
  | .auditEndpoint => c.audit.endpoint
  | .auditSecret => c.audit.signingSecret
  | .auditTimeout => c.audit.timeout
  | .auditAttempts => c.audit.retry.maxAttempts
  | .auditDelays => c.audit.retry.delays

namespace Environment

/-- What the environment says of a field. -/
def value (env : Environment) (v : Variable) : v.Value :=
  ((env.text v).bind v.read?).getD v.standard

/-- A piece between the commas of the list of delays is not blank and, once trimmed, is no numeral
of a word of 64 bits. -/
def HasBadDelay (env : Environment) : Prop :=
  ∃ s ∈ env.text .auditDelays, ∃ piece : String, piece.toList ∈ Text.pieces ',' s.toList ∧
    ¬ Text.IsBlankText piece ∧
      ∀ n, Numeral.IsNatural (Text.trim piece) n → UInt64.size ≤ n

/-- The limit of attempts is a numeral of zero. -/
def HasNoAttempts (env : Environment) : Prop :=
  ∃ s ∈ env.text .auditAttempts, Numeral.IsNatural s 0

end Environment

/-! ## Reading one text -/

section Reading

variable {s piece : String}

theorem Numeral.natural_word64_eq_ok_iff {n : Nat} :
    natural word64 s = .ok n ↔ IsNatural s n ∧ n < UInt64.size := by
  rw [natural_eq_ok_iff, Nat.lt_iff_le_pred (by decide : 0 < UInt64.size)]
  rfl

theorem Numeral.natural_word32_eq_ok_iff {n : Nat} :
    natural word32 s = .ok n ↔ IsNatural s n ∧ n < UInt32.size := by
  rw [natural_eq_ok_iff, Nat.lt_iff_le_pred (by decide : 0 < UInt32.size)]
  rfl

theorem Numeral.integer_signed64_eq_ok_iff {n : Int} :
    integer signed64 s = .ok n ↔
      IsInteger s n ∧ Int64.minValue.toInt ≤ n ∧ n ≤ Int64.maxValue.toInt := by
  rw [integer_eq_ok_iff, show Int64.minValue.toInt = -(signed64 + 1 : Int) by decide,
    show Int64.maxValue.toInt = signed64 by decide]

theorem Config.delay_eq_ok_iff {n : Nat} :
    Config.delay piece = .ok n ↔ Numeral.IsNatural piece n ∧ n < UInt64.size := by
  rw [← Numeral.natural_word64_eq_ok_iff]
  unfold delay
  cases Numeral.natural Numeral.word64 piece with
  | error fault => exact iff_of_false (fun h => by cases h) fun h => by cases h
  | ok m => rw [Except.ok.injEq, Except.ok.injEq]

theorem Config.delays_eq_ok_iff {ns : List Nat} :
    Config.delays s = .ok ns ↔ Variable.Denotes .auditDelays s ns := by
  unfold delays Variable.Denotes
  rw [mapM_eq_ok_iff]
  simp only [delay_eq_ok_iff]

/-- **A text is read to the value that it stands for.** -/
theorem Variable.read?_eq_some_iff {v : Variable} {x : v.Value} :
    v.read? s = some x ↔ v.Denotes s x := by
  have hnonempty : ∀ setting : Option String,
      (if s = "" then none else some (some s)) = some setting ↔ s ≠ "" ∧ setting = some s := by
    intro setting
    rw [Option.ite_none_left_eq_some, Option.some.injEq, eq_comm (a := some s)]
  cases v with
  | bindAddress => exact Option.some.injEq s x ▸ eq_comm
  | trustProxy =>
    have hyes : Config.isYes s = true ↔ s = "true" ∨ s = "1" := by
      rw [Config.isYes, Bool.or_eq_true, beq_iff_eq, beq_iff_eq]
    show (if Config.isYes s then some true else none) = some x ↔ (s = "true" ∨ s = "1") ∧ x = true
    rw [Option.ite_none_right_eq_some, hyes, Option.some.injEq, eq_comm (a := true)]
  | defaultRole => exact Role.ofTag?_eq_some_iff
  | sessionTtl => exact toOption_eq_some_iff.trans Numeral.integer_signed64_eq_ok_iff
  | auditEndpoint => exact hnonempty x
  | auditSecret => exact hnonempty x
  | auditTimeout => exact toOption_eq_some_iff.trans Numeral.natural_word64_eq_ok_iff
  | auditAttempts => exact toOption_eq_some_iff.trans Numeral.natural_word32_eq_ok_iff
  | auditDelays => exact toOption_eq_some_iff.trans Config.delays_eq_ok_iff

end Reading

/-! ## What is read of an environment -/

namespace Environment

variable {env : Environment} {v : Variable} {s : String} {x : v.Value}

theorem value_of_denotes (hs : s ∈ env.text v) (hx : v.Denotes s x) : env.value v = x := by
  rw [value, Option.mem_def.mp hs, Option.bind_some, Variable.read?_eq_some_iff.mpr hx,
    Option.getD_some]

/-- An unset or unreadable variable says nothing, and so does one whose text stands for nothing. -/
theorem value_of_not_denotes (h : ∀ s ∈ env.text v, ∀ x, ¬ v.Denotes s x) :
    env.value v = v.standard := by
  have hnone : (env.text v).bind v.read? = none := by
    rw [Option.bind_eq_none_iff]
    intro s hs
    refine Option.eq_none_iff_forall_ne_some.mpr fun x hx => h s hs x ?_
    exact Variable.read?_eq_some_iff.mp hx
  rw [value, hnone, Option.getD_none]

/-- A field has a value that its variable stands for, or the standard one. -/
theorem value_cases (env : Environment) (v : Variable) :
    (∃ s ∈ env.text v, v.Denotes s (env.value v)) ∨ env.value v = v.standard := by
  by_cases h : ∃ s ∈ env.text v, ∃ x, v.Denotes s x
  · obtain ⟨s, hs, x, hx⟩ := h
    rw [value_of_denotes hs hx]
    exact Or.inl ⟨s, hs, hx⟩
  · exact Or.inr (value_of_not_denotes fun s hs x hx => h ⟨s, hs, x, hx⟩)

theorem value_auditAttempts_eq_zero_iff : env.value .auditAttempts = 0 ↔ env.HasNoAttempts := by
  constructor
  · intro hzero
    rcases env.value_cases .auditAttempts with ⟨s, hs, hn⟩ | hstandard
    · rw [hzero] at hn
      exact ⟨s, hs, hn.1⟩
    · rw [hzero] at hstandard
      cases hstandard
  · rintro ⟨s, hs, hzero⟩
    exact value_of_denotes hs ⟨hzero, by decide⟩

theorem mem_delayPieces {p : String} : p ∈ Config.delayPieces s ↔
    ∃ piece : String, piece.toList ∈ Text.pieces ',' s.toList ∧ ¬ Text.IsBlankText piece ∧
      Text.trim piece = p := by
  unfold Config.delayPieces
  rw [List.mem_filter, List.mem_map, decide_eq_true_iff]
  constructor
  · rintro ⟨⟨cs, hcs, rfl⟩, hne⟩
    have htrim : Text.trim (String.ofList cs) = String.ofList (Text.trimChars cs) := by
      rw [Text.trim, String.toList_ofList]
    refine ⟨String.ofList cs, by rwa [String.toList_ofList], ?_, htrim⟩
    rwa [← Text.trim_eq_empty_iff, htrim]
  · rintro ⟨piece, hpiece, hblank, rfl⟩
    exact ⟨⟨piece.toList, hpiece, rfl⟩, mt (Text.trim_eq_empty_iff piece).mp hblank⟩

/-- A list of delays is refused for its bad pieces only. -/
theorem not_hasBadDelay_iff :
    ¬ env.HasBadDelay ↔ ∀ s ∈ env.text .auditDelays, ∃ ns, Config.delays s = .ok ns := by
  have hpieces : ∀ s : String, (∃ ns, Config.delays s = .ok ns) ↔
      ∀ piece : String, piece.toList ∈ Text.pieces ',' s.toList → ¬ Text.IsBlankText piece →
        ∃ n, Numeral.IsNatural (Text.trim piece) n ∧ n < UInt64.size := by
    intro s
    unfold Config.delays
    simp only [exists_mapM_ok_iff, mem_delayPieces, Config.delay_eq_ok_iff]
    constructor
    · exact fun h piece hpiece hblank => h _ ⟨piece, hpiece, hblank, rfl⟩
    · rintro h _ ⟨piece, hpiece, hblank, rfl⟩
      exact h piece hpiece hblank
  unfold HasBadDelay
  simp only [hpieces, not_exists, not_and, not_forall, Nat.not_le, exists_prop]

end Environment

namespace Config

variable {env : Environment} {c : Config}

/-- The configuration with the given fields. -/
def ofValues (f : (v : Variable) → v.Value) : Config where
  bindAddress := f .bindAddress
  trustProxy := f .trustProxy
  defaultRole := f .defaultRole
  sessionTtl := f .sessionTtl
  audit := {
    endpoint := f .auditEndpoint
    signingSecret := f .auditSecret
    timeout := f .auditTimeout
    retry := { maxAttempts := f .auditAttempts, delays := f .auditDelays } }

theorem get_ofValues (f : (v : Variable) → v.Value) (v : Variable) : (ofValues f).get v = f v := by
  cases v <;> rfl

/-- **Where the delays can be read, the configuration is what the environment says of its fields**,
unless it says that there are no attempts. -/
theorem ofEnvironment_of_readable (h : ∀ s ∈ env.text .auditDelays, ∃ ns, delays s = .ok ns) :
    ofEnvironment env =
      if env.value .auditAttempts = 0 then .error .noAttempts else .ok (ofValues env.value) := by
  have haddress : (env.text .bindAddress).getD "0.0.0.0:8080" = env.value .bindAddress := by
    unfold Environment.value
    cases env.text .bindAddress <;> rfl
  have htrust : (env.text .trustProxy).any isYes = env.value .trustProxy := by
    unfold Environment.value
    cases env.text .trustProxy with
    | none => rfl
    | some s =>
      show isYes s = (if isYes s then some true else none).getD false
      cases isYes s <;> rfl
  have hnonempty : ∀ setting : Option String, setting.filter (· ≠ "") =
      (setting.bind fun s => if s = "" then none else some (some s)).getD none := by
    rintro (_ | s)
    · rfl
    · rw [Option.filter_some, Option.bind_some]
      by_cases hs : s = ""
      · rw [if_neg (by simpa using hs), if_pos hs, Option.getD_none]
      · rw [if_pos (by simpa using hs), if_neg hs, Option.getD_some]
  unfold ofEnvironment
  rw [haddress, htrust, hnonempty, hnonempty]
  cases hs : env.text .auditDelays with
  | none =>
    have hdelays : env.value .auditDelays = standardDelays := by
      rw [Environment.value, hs]
      rfl
    unfold ofValues
    rw [hdelays]
    rfl
  | some s =>
    obtain ⟨ns, hns⟩ := h s hs
    have hdelays : env.value .auditDelays = ns :=
      Environment.value_of_denotes hs (delays_eq_ok_iff.mp hns)
    unfold ofValues
    rw [hdelays]
    dsimp only
    rw [hns]
    rfl

theorem delay_eq_error {piece : String} {e : ConfigError} (h : delay piece = .error e) :
    ∃ fault, e = .badDelay piece fault := by
  unfold delay at h
  split at h
  · cases h
  · next fault _ => exact ⟨fault, (Except.error.inj h).symm⟩

/-- A bad piece is reported, whatever else the environment says. -/
theorem ofEnvironment_of_hasBadDelay (h : env.HasBadDelay) :
    ∃ piece fault, ofEnvironment env = .error (.badDelay piece fault) := by
  have hread := mt Environment.not_hasBadDelay_iff.mpr (not_not_intro h)
  simp only [not_forall, not_exists] at hread
  obtain ⟨s, hs, hread⟩ := hread
  obtain ⟨e, he⟩ := exists_error_iff.mpr hread
  obtain ⟨piece, -, hpiece⟩ := exists_error_of_mapM he
  obtain ⟨fault, rfl⟩ := delay_eq_error hpiece
  refine ⟨piece, fault, ?_⟩
  unfold ofEnvironment
  rw [Option.mem_def.mp hs]
  dsimp only
  rw [he]
  rfl

/-- What becomes of an environment is decided by its delays first and its limit of attempts next. -/
theorem ofEnvironment_cases (env : Environment) :
    (env.HasBadDelay ∧ ∃ piece fault, ofEnvironment env = .error (.badDelay piece fault)) ∨
    (¬ env.HasBadDelay ∧ env.HasNoAttempts ∧ ofEnvironment env = .error .noAttempts) ∨
    (¬ env.HasBadDelay ∧ ¬ env.HasNoAttempts ∧
      ofEnvironment env = .ok (ofValues env.value)) := by
  by_cases hbad : env.HasBadDelay
  · exact Or.inl ⟨hbad, ofEnvironment_of_hasBadDelay hbad⟩
  · right
    rw [ofEnvironment_of_readable (Environment.not_hasBadDelay_iff.mp hbad),
      ← Environment.value_auditAttempts_eq_zero_iff]
    by_cases hzero : env.value .auditAttempts = 0
    · exact Or.inl ⟨hbad, hzero, if_pos hzero⟩
    · exact Or.inr ⟨hbad, hzero, if_neg hzero⟩

theorem ofEnvironment_eq_ok_iff : ofEnvironment env = .ok c ↔
    ¬ env.HasBadDelay ∧ ¬ env.HasNoAttempts ∧ c = ofValues env.value := by
  rcases ofEnvironment_cases env with ⟨hbad, _, _, h⟩ | ⟨hbad, hno, h⟩ | ⟨hbad, hno, h⟩
  · simp [h, hbad]
  · simp [h, hno]
  · simp [h, hbad, hno, eq_comm]

/-- Field by field, an accepted configuration is what the environment says. -/
theorem get_of_ofEnvironment (h : ofEnvironment env = .ok c) (v : Variable) :
    c.get v = env.value v := by
  obtain ⟨-, -, rfl⟩ := ofEnvironment_eq_ok_iff.mp h
  exact get_ofValues env.value v

/-- **Every environment is accepted but those with a bad piece in the list of delays and those with
a limit of no attempts, and a bad piece is reported first.**  An accepted configuration allows an
attempt.  Each of its fields has the value that its own variable stands for, and the standard value
if the variable is unset, no text, or stands for none; no other variable counts. -/
theorem ofEnvironment_fieldwise (env : Environment) :
    ((∃ piece fault, ofEnvironment env = .error (.badDelay piece fault)) ↔ env.HasBadDelay) ∧
    (ofEnvironment env = .error .noAttempts ↔ ¬ env.HasBadDelay ∧ env.HasNoAttempts) ∧
    ((∃ c, ofEnvironment env = .ok c) ↔ ¬ env.HasBadDelay ∧ ¬ env.HasNoAttempts) ∧
    ∀ c, ofEnvironment env = .ok c →
      1 ≤ c.audit.retry.maxAttempts ∧
      (∀ v, ∀ s ∈ env.text v, ∀ x, v.Denotes s x → c.get v = x) ∧
      (∀ v, (∀ s ∈ env.text v, ∀ x, ¬ v.Denotes s x) → c.get v = v.standard) ∧
      ∀ env' c', ofEnvironment env' = .ok c' → ∀ v, env' v = env v → c'.get v = c.get v := by
  refine ⟨?_, ?_, ?_, fun c hc => ?_⟩
  · rcases ofEnvironment_cases env with ⟨hbad, _, _, h⟩ | ⟨hbad, -, h⟩ | ⟨hbad, -, h⟩ <;>
      simp [h, hbad]
  · rcases ofEnvironment_cases env with ⟨hbad, _, _, h⟩ | ⟨hbad, hno, h⟩ | ⟨hbad, hno, h⟩
    · simp [h, hbad]
    · simp [h, hbad, hno]
    · simp [h, hno]
  · simp only [ofEnvironment_eq_ok_iff, exists_and_left, exists_eq, and_true]
  · have hget := get_of_ofEnvironment hc
    refine ⟨?_, fun v s hs x hx => ?_, fun v hv => ?_, fun env' c' hc' v hv => ?_⟩
    · obtain ⟨-, hno, -⟩ := ofEnvironment_eq_ok_iff.mp hc
      have hvalue : c.audit.retry.maxAttempts = env.value .auditAttempts := hget .auditAttempts
      rw [hvalue]
      exact Nat.pos_of_ne_zero (mt Environment.value_auditAttempts_eq_zero_iff.mp hno)
    · rw [hget, Environment.value_of_denotes hs hx]
    · rw [hget, Environment.value_of_not_denotes hv]
    · have htext : env'.text v = env.text v := by
        unfold Environment.text
        rw [hv]
      rw [hget, get_of_ofEnvironment hc', Environment.value, Environment.value, htext]

/-- A lifetime beyond 64 bits, a timeout with a minus sign, an empty endpoint, bytes that are no
text and an unknown word, beside a limit and delays that can be read. -/
def sampleFaults : Environment
  | .trustProxy => some (Utf8.encode "yes")
  | .defaultRole => some [0xff]
  | .sessionTtl => some (Utf8.encode "9223372036854775808")
  | .auditEndpoint => some []
  | .auditTimeout => some (Utf8.encode "-1")
  | .auditAttempts => some (Utf8.encode "+007")
  | .auditDelays => some (Utf8.encode " ,5,, +60 ")
  | _ => none

theorem ofEnvironment_fieldwise_sampleFaults :
    ∃ c, ofEnvironment sampleFaults = .ok c ∧ c.get .auditAttempts = 7 ∧
      c.get .auditDelays = [5, 60] ∧ c.get .sessionTtl = 28800 := by
  obtain ⟨-, -, -, hfields⟩ := ofEnvironment_fieldwise sampleFaults
  have hok : ofEnvironment sampleFaults = .ok (ofValues sampleFaults.value) := by decide +kernel
  obtain ⟨-, hdenoted, hstandard, -⟩ := hfields _ hok
  have hattempts : sampleFaults.text .auditAttempts = some "+007" := by decide +kernel
  have hdelays : sampleFaults.text .auditDelays = some " ,5,, +60 " := by decide +kernel
  have httl : sampleFaults.text .sessionTtl = some "9223372036854775808" := by decide +kernel
  refine ⟨_, hok, hdenoted _ _ hattempts _ ?_, hdenoted _ _ hdelays _ ?_, hstandard _ ?_⟩
  · exact Variable.read?_eq_some_iff.mp (by decide +kernel)
  · exact Variable.read?_eq_some_iff.mp (by decide +kernel)
  · intro s hs x hx
    obtain rfl := Option.some.inj (httl.symm.trans hs)
    have hread : Variable.read? .sessionTtl "9223372036854775808" = none := by decide +kernel
    rw [Variable.read?_eq_some_iff.mpr hx] at hread
    cases hread

end Config

end AdminConsole
