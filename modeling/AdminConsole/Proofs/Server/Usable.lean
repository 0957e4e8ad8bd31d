import AdminConsole.Model.Sample
import AdminConsole.Proofs.Server.Environment
import AdminConsole.Proofs.Time.Calendar
import AdminConsole.Server.Server

/-! # Which configurations are usable

Any lifetime of sessions that the environment names is accepted as long as it
is a whole number of 64 bits (`Config.ofEnvironment_put_sessionTtl`).  Two
conversions later may fail on it.  The server does not start if the lifetime
cannot be held in milliseconds, and a sign-in stops the program if the session
would end beyond the calendar.  The second limit is by far the narrower one:
a configuration is usable at every instant from 1970 to 9999 if and only if the
lifetime reaches neither before the first second of the calendar from 1970 on
nor past its last second from the end of 9999 on (`Config.usable_iff`).
-/
namespace AdminConsole

namespace Instant

/-- The year of the instant is one of those from 1970 to 9999. -/
def InPresentEra (t : Instant) : Prop := 1970 ≤ t.date.year ∧ t.date.year ≤ 9999

/-- The last second of the year 9999. -/
def lastOfEra : Int := 253402300799

theorem inPresentEra_iff (t : Instant) : t.InPresentEra ↔ 0 ≤ t.seconds ∧ t.seconds ≤ lastOfEra := by
  have hfirst := le_year_date_iff 1970 t
  have hlast := le_year_date_iff 10000 t
  rw [show Date.toDays ⟨1970, 1, 1⟩ * secondsPerDay = 0 by decide] at hfirst
  rw [show Date.toDays ⟨10000, 1, 1⟩ * secondsPerDay = lastOfEra + 1 by decide] at hlast
  unfold InPresentEra
  omega

theorem plusSeconds?_isSome_iff (t : Instant) (n : Int) :
    (t.plusSeconds? n).isSome ↔ firstSecond ≤ t.seconds + n ∧ t.seconds + n ≤ lastSecond := by
  unfold plusSeconds?
  dsimp only
  split
  · next h => exact iff_of_true rfl h
  · next h => exact iff_of_false Bool.false_ne_true h

end Instant

namespace SessionStore

/-- A session can be started if its end is within the calendar, whatever the store holds. -/
theorem create_eq_ok_iff (store : SessionStore) (now : Instant) (id : Uuid) (actor : Actor) :
    (∃ granted, store.create now id actor = .ok granted) ↔
      Instant.firstSecond ≤ now.seconds + store.ttl ∧
        now.seconds + store.ttl ≤ Instant.lastSecond := by
  rw [← Instant.plusSeconds?_isSome_iff]
  unfold create
  cases now.plusSeconds? store.ttl with
  | none =>
    refine iff_of_false ?_ Bool.false_ne_true
    rintro ⟨_, hcreate⟩
    cases hcreate
  | some expiry => exact iff_of_true ⟨_, rfl⟩ rfl

end SessionStore

theorem Server.ttl_of_start {recognise : String → Option Agent} {overflow : Overflow}
    {trustProxy : Bool} {defaultRole : Role} {ttl : Int} {console : Console} {server : Server}
    (h : start recognise overflow trustProxy defaultRole ttl console = .ok server) :
    server.sessions.ttl = ttl := by
  unfold start SessionStore.new at h
  split at h
  · next store hstore =>
    split at hstore
    · cases hstore
      cases h
      rfl
    · cases hstore
  · cases h

namespace Environment

/-- The lifetime of sessions that the environment names. -/
def sessionTtl? (env : Environment) : Option Int :=
  (env.text .sessionTtl).bind fun s => (Numeral.integer Numeral.signed64 s).toOption

/-- The environment with another value of a variable, or without one. -/
def put (env : Environment) (v : Variable) (value : Option (List UInt8)) : Environment :=
  fun w => if w = v then value else env w

theorem text_put_of_ne {v w : Variable} (h : w ≠ v) (env : Environment)
    (value : Option (List UInt8)) : (env.put v value).text w = env.text w := by
  unfold text put
  rw [if_neg h]

end Environment

namespace Config

/-! ## What the environment says about the lifetime -/

/-- The lifetime of sessions when none is given. -/
def standardTtl : Int := 28800

/-- Whether an environment is accepted does not depend on the lifetime that it names, and the
configuration depends on it in nothing but the lifetime. -/
theorem ofEnvironment_put_sessionTtl (env : Environment) (value : Option (List UInt8)) :
    ofEnvironment (env.put .sessionTtl value) = (ofEnvironment env).map fun c =>
      { c with sessionTtl := (env.put .sessionTtl value).sessionTtl?.getD standardTtl } := by
  have htext : ∀ v, v ≠ .sessionTtl → (env.put .sessionTtl value).text v = env.text v :=
    fun v hv => Environment.text_put_of_ne hv env value
  unfold ofEnvironment
  rw [htext .bindAddress (by decide), htext .trustProxy (by decide), htext .defaultRole (by decide),
    htext .auditEndpoint (by decide), htext .auditSecret (by decide),
    htext .auditTimeout (by decide), htext .auditAttempts (by decide),
    htext .auditDelays (by decide)]
  cases env.text .auditDelays with
  | none =>
    dsimp only [bind, Except.bind]
    split <;> rfl
  | some list =>
    dsimp only [bind, Except.bind]
    cases delays list with
    | error e => rfl
    | ok ds =>
      dsimp only
      split <;> rfl

theorem ofEnvironment_sessionTtl {env : Environment} {c : Config} (h : ofEnvironment env = .ok c) :
    c.sessionTtl = env.sessionTtl?.getD standardTtl := get_of_ofEnvironment h .sessionTtl

/-! ## Usable configurations -/

/-- The server starts with the configuration, and at every instant of the present era an actor can
sign in, whatever sessions there are. -/
def Usable (c : Config) : Prop :=
  ∀ recognise overflow console, ∃ server,
    Server.start recognise overflow c.trustProxy c.defaultRole c.sessionTtl console =
        .ok server ∧
      ∀ sessions now id actor, now.InPresentEra →
        ∃ granted, { server.sessions with sessions := sessions }.create now id actor = .ok granted

/-- The limit that the width of a lifetime sets is never the one that decides. -/
theorem usable_iff_ttl (c : Config) : c.Usable ↔ Instant.firstSecond ≤ c.sessionTtl ∧
    c.sessionTtl ≤ Instant.lastSecond - Instant.lastOfEra := by
  have hera : (0 : Int) ≤ Instant.lastOfEra := by decide
  constructor
  · intro h
    obtain ⟨server, hstart, hcreate⟩ := h (fun _ => none) .wraps
      ⟨Sample.data, .idle c.audit.retry .log⟩
    have httl : server.sessions.ttl = c.sessionTtl := Server.ttl_of_start hstart
    -- The first and the last second of the era are the instants that matter.
    obtain ⟨hfirst, -⟩ := (SessionStore.create_eq_ok_iff _ _ _ _).mp
      (hcreate [] ⟨0, 0⟩ Uuid.nil ⟨Uuid.nil, c.defaultRole⟩
        ((Instant.inPresentEra_iff _).mpr ⟨Int.le_refl 0, hera⟩))
    obtain ⟨-, hlast⟩ := (SessionStore.create_eq_ok_iff _ _ _ _).mp
      (hcreate [] ⟨Instant.lastOfEra, 0⟩ Uuid.nil ⟨Uuid.nil, c.defaultRole⟩
        ((Instant.inPresentEra_iff _).mpr ⟨hera, Int.le_refl _⟩))
    rw [httl] at hfirst hlast
    dsimp only at hfirst hlast
    omega
  · rintro ⟨hfirst, hlast⟩ recognise overflow console
    have hheld : -SessionStore.longestTtl ≤ c.sessionTtl ∧
        c.sessionTtl ≤ SessionStore.longestTtl := by
      have hleast : -SessionStore.longestTtl ≤ Instant.firstSecond := by decide
      have hgreatest : Instant.lastSecond - Instant.lastOfEra ≤ SessionStore.longestTtl := by decide
      omega
    refine ⟨⟨recognise, overflow, c.trustProxy, c.defaultRole, ⟨c.sessionTtl, []⟩, console⟩,
      ?_, ?_⟩
    · unfold Server.start SessionStore.new
      rw [if_pos hheld]
    · intro sessions now id actor hnow
      obtain ⟨hfrom, hto⟩ := (Instant.inPresentEra_iff now).mp hnow
      refine (SessionStore.create_eq_ok_iff _ _ _ _).mpr ?_
      dsimp only
      omega

/-- **An accepted configuration is usable if and only if the lifetime that its environment names,
if it names one, leads from no instant of the present era out of the calendar.** -/
theorem usable_iff {env : Environment} {c : Config} (h : ofEnvironment env = .ok c) :
    c.Usable ↔ ∀ n ∈ env.sessionTtl?, Instant.firstSecond ≤ n ∧
      n ≤ Instant.lastSecond - Instant.lastOfEra := by
  rw [usable_iff_ttl, ofEnvironment_sessionTtl h]
  cases env.sessionTtl? with
  | none =>
    have hstandard : Instant.firstSecond ≤ standardTtl ∧
        standardTtl ≤ Instant.lastSecond - Instant.lastOfEra := by decide
    exact iff_of_true hstandard fun n hn => by cases hn
  | some n =>
    rw [Option.getD_some]
    exact ⟨fun hn m hm => Option.mem_some.mp hm ▸ hn, fun hall => hall n rfl⟩

/-! ## Environments that set nothing but the lifetime -/

/-- The environment in which the lifetime of sessions alone is set. -/
def onlyTtl (digits : String) : Environment :=
  Environment.put (fun _ => none) .sessionTtl
    (some (digits.toList.map fun c => UInt8.ofNat c.toNat))

/-- The configuration of such an environment. -/
def withTtl (ttl : Int) : Config where
  bindAddress := "0.0.0.0:8080"
  trustProxy := false
  defaultRole := Role.standard
  sessionTtl := ttl
  audit := {
    endpoint := none
    signingSecret := none
    timeout := 10
    retry := { maxAttempts := 5, delays := standardDelays } }

theorem ofEnvironment_onlyTtl (digits : String) :
    ofEnvironment (onlyTtl digits) = .ok (withTtl ((onlyTtl digits).sessionTtl?.getD standardTtl)) :=
  ofEnvironment_put_sessionTtl _ _

/-- The longest usable lifetime, and one that is longer by a second. -/
theorem usable_iff_sampleTtls :
    (∃ c, ofEnvironment (onlyTtl "7956864576000") = .ok c ∧ c.Usable) ∧
      ∃ c, ofEnvironment (onlyTtl "7956864576001") = .ok c ∧ ¬ c.Usable := by
  have hlongest : (onlyTtl "7956864576000").sessionTtl? = some 7956864576000 := by decide +kernel
  have hlonger : (onlyTtl "7956864576001").sessionTtl? = some 7956864576001 := by decide +kernel
  refine ⟨⟨_, ofEnvironment_onlyTtl _, ?_⟩, _, ofEnvironment_onlyTtl _, ?_⟩
  · rw [usable_iff (ofEnvironment_onlyTtl _), hlongest]
    rintro n ⟨⟩
    decide
  · rw [usable_iff (ofEnvironment_onlyTtl _), hlonger]
    exact fun h => absurd (h _ rfl) (by decide)

/-- With the greatest lifetime of 64 bits the server does not start.  With the greatest one that can
be held it starts, and the first sign-in stops the program. -/
theorem accepted_not_usable :
    (∃ c, ofEnvironment (onlyTtl "9223372036854775807") = .ok c ∧ ¬ c.Usable ∧
      ∀ recognise overflow console,
        Server.start recognise overflow c.trustProxy c.defaultRole c.sessionTtl console =
          .error .spanOutOfRange) ∧
    ∃ c, ofEnvironment (onlyTtl "9223372036854775") = .ok c ∧ ¬ c.Usable ∧
      ∀ recognise overflow console, ∃ server,
        Server.start recognise overflow c.trustProxy c.defaultRole c.sessionTtl console =
            .ok server ∧
          ∀ id actor, server.sessions.create (Sample.daysAgo 0) id actor = .error .dateOutOfRange := by
  have hendless : (onlyTtl "9223372036854775807").sessionTtl? = some 9223372036854775807 := by
    decide +kernel
  have hlong : (onlyTtl "9223372036854775").sessionTtl? = some 9223372036854775 := by
    decide +kernel
  refine ⟨⟨_, ofEnvironment_onlyTtl _, ?_, ?_⟩, _, ofEnvironment_onlyTtl _, ?_, ?_⟩
  · rw [usable_iff_ttl, hendless]
    decide
  · rw [hendless]
    exact fun _ _ _ => rfl
  · rw [usable_iff_ttl, hlong]
    decide
  · rw [hlong]
    exact fun _ _ _ => ⟨_, rfl, fun id actor => rfl⟩

end Config

end AdminConsole
