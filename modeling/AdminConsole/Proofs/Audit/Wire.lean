import AdminConsole.Audit.Collector
import AdminConsole.Proofs.Access.Tags
import AdminConsole.Proofs.Json.Reading
import AdminConsole.Proofs.Time.Stamp

/-! # Records over the wire

A record that goes over the wire is read back as it was, but for what its time
stamp does not say: the fractions of a millisecond are gone (`ofWire_wire`).
Nothing else of it is lost, so the record that was read is written again with
the same text, and the signature of that text remains valid.

A record that was read from any text at all has a time stamp that can stand on a
clock (`isClock_of_ofWire`), and so the same holds of it.
-/
namespace AdminConsole.AuditRecord

open Json Json.Reader

/-! ## The members of a record -/

/-- The members of an actor. -/
def actorMembers (a : Actor) : List (ReadMember ActorDraft) :=
  [.of "id" (.str a.id.text) (fun v d => { d with id := some v }) a.id,
    .of "role" (.str a.role.tag) (fun v d => { d with role := some v }) a.role]

theorem returns_actor (a : Actor) : actorReader.Returns a.toJson a := by
  show Returns _ (.obj ((actorMembers a).map ReadMember.pair)) a
  have hnames : ["id", "role"].Nodup := by decide
  refine returns_record (List.cons_ne_nil _ _) ?_ hnames rfl
  simp only [actorMembers, List.forall_mem_cons]
  refine ⟨?_, ?_, fun _ h => by cases h⟩
  · exact ReadMember.isRead_of rfl (returns_decoded a.id.parse?_text)
  · exact ReadMember.isRead_of rfl (returns_tag a.role.ofJsonName?_tag)

/-- The member for the target, if there is one. -/
def targetMember : Option String → List (ReadMember Draft)
  | none => []
  | some s => [.of "target" (.str s) (fun v d => { d with target := v }) (some s)]

/-- The members of a record; the time stamp is read as cut to whole milliseconds. -/
def members (r : AuditRecord) : List (ReadMember Draft) :=
  [.of "id" (.str r.id.text) (fun v d => { d with id := some v }) r.id,
    .of "action" (.str r.action) (fun v d => { d with action := some v }) r.action,
    .of "actor" r.actor.toJson (fun v d => { d with actor := some v }) r.actor] ++
  targetMember r.target ++
  [.of "ip" (.str r.ip) (fun v d => { d with ip := some v }) r.ip,
    .of "device" (.str r.device) (fun v d => { d with device := some v }) r.device,
    .of "timestamp" (.str r.timestamp.textMillis) (fun v d => { d with timestamp := some v })
      r.timestamp.toMillis]

theorem toJson_eq (r : AuditRecord) : r.toJson = .obj (r.members.map ReadMember.pair) := by
  unfold toJson members
  cases r.target <;> rfl

theorem nodup_names (r : AuditRecord) : (r.members.map ReadMember.name).Nodup := by
  unfold members
  cases r.target with
  | none =>
    have hnames : ["id", "action", "actor", "ip", "device", "timestamp"].Nodup := by decide
    exact hnames
  | some s =>
    have hnames : ["id", "action", "actor", "target", "ip", "device", "timestamp"].Nodup := by decide
    exact hnames

/-! ## Reading what was written -/

/-- The record with its time stamp cut to whole milliseconds. -/
def toMillis (r : AuditRecord) : AuditRecord := { r with timestamp := r.timestamp.toMillis }

theorem wire_toMillis (r : AuditRecord) : r.toMillis.wire = r.wire := by
  unfold wire toJson toMillis
  dsimp only
  rw [Instant.textMillis_toMillis]

/-- **A record is read back from the wire, cut to whole milliseconds.** -/
theorem ofWire_wire {r : AuditRecord} (hclock : r.timestamp.IsClock)
    (hyear : r.timestamp.InFourDigits) : ofWire r.wire = .ok r.toMillis := by
  refine document_render ?_
  rw [toJson_eq]
  refine returns_record (List.cons_ne_nil _ _) ?_ r.nodup_names ?_
  · simp only [members, List.forall_mem_append, List.forall_mem_cons]
    refine ⟨⟨⟨?_, ?_, ?_, fun _ h => by cases h⟩, ?_⟩, ?_, ?_, ?_, fun _ h => by cases h⟩
    · exact ReadMember.isRead_of rfl (returns_decoded r.id.parse?_text)
    · exact ReadMember.isRead_of rfl (returns_text r.action)
    · exact ReadMember.isRead_of rfl (returns_actor r.actor)
    · cases r.target with
      | none => exact fun _ h => by cases h
      | some s =>
        simp only [targetMember, List.forall_mem_cons]
        exact ⟨ReadMember.isRead_of rfl (returns_optional_text s), fun _ h => by cases h⟩
    · exact ReadMember.isRead_of rfl (returns_text r.ip)
    · exact ReadMember.isRead_of rfl (returns_text r.device)
    · exact ReadMember.isRead_of rfl (returns_decoded (Instant.parse?_textMillis hclock hyear))
  · unfold members toMillis
    cases r.target <;> rfl

/-! ## What is read from any text -/

/-- The time stamp of a record that is read stands on a clock. -/
theorem isClock_of_ofWire {s : String} {r : AuditRecord} (h : ofWire s = .ok r) :
    r.timestamp.IsClock := by
  have htimestamp : (Field.of "timestamp" (decoded Instant.parse?)
      fun v (d : Draft) => { d with timestamp := some v }).Keeps
        fun d => ∀ t ∈ d.timestamp, t.IsClock := by
    refine keeps_of fun ts t rest hread _ _ => ?_
    obtain ⟨text, hparse⟩ := exists_of_decoded hread
    rintro _ ⟨⟩
    exact Instant.isClock_of_parse? hparse
  obtain ⟨d, hd, hfinish⟩ : ∃ d : Draft, (∀ t ∈ d.timestamp, t.IsClock) ∧ _ = some r := by
    refine record_keeps ?_ (fun t h => by cases h) (of_document h)
    -- No other field changes the time stamp.
    simp only [List.forall_mem_cons]
    refine ⟨?_, ?_, ?_, ?_, ?_, ?_, htimestamp, fun _ h => by cases h⟩
    all_goals exact keeps_of fun _ _ _ _ _ h => h
  simp only [bind, Option.bind_eq_some_iff] at hfinish
  obtain ⟨_, -, _, -, _, -, _, -, _, -, t, ht, hr⟩ := hfinish
  cases hr
  exact hd t ht

/-- **Records survive the wire.**  What is written for a record is read as that record cut to whole
milliseconds.  So the record that was read is written again as the same text, and leads to the same
request with the same signature.  And whatever text a record was read from, it is read back from
what is written for it. -/
theorem wire_round_trip :
    (∀ r : AuditRecord, r.timestamp.IsClock → r.timestamp.InFourDigits →
      ofWire r.wire = .ok r.toMillis ∧ (ofWire r.wire).map wire = .ok r.wire ∧
        ∀ secret, (ofWire r.wire).map (Collector.request secret) =
          .ok (Collector.request secret r)) ∧
    ∀ s r, ofWire s = .ok r → r.timestamp.InFourDigits → ofWire r.wire = .ok r.toMillis := by
  refine ⟨fun r hclock hyear => ?_, fun s r h hyear => ofWire_wire (isClock_of_ofWire h) hyear⟩
  have hread := ofWire_wire hclock hyear
  refine ⟨hread, ?_, fun secret => ?_⟩
  · rw [hread, Except.map, wire_toMillis]
  · have hrequest : Collector.request secret r.toMillis = Collector.request secret r := by
      unfold Collector.request
      rw [wire_toMillis]
      rfl
    rw [hread, Except.map, hrequest]

/-- A record of a leap second, without a target, and with all kinds of characters. -/
def sampleLeap : AuditRecord where
  id := .ofNat 1
  action := "a\"b\\c\n\x01"
  actor := { id := .ofNat 2, role := .owner }
  target := none
  ip := "é€😀"
  device := ""
  timestamp := ⟨1717243259, 1123900000⟩

/-- A text with its members in another order, one of them unknown, and the actor as an array. -/
def sampleText : String :=
  "\x7b\"timestamp\":\"2024-06-01 14:00:60.1239+02:00\",\"more\":[1,\x7b\x7d],\"target\":null," ++
    "\"device\":\"\",\"ip\":\"\\u00e9€\\ud83d\\ude00\",\"action\":\"a\\\"b\\\\c\\n\\u0001\"," ++
    "\"actor\":[\"00000000000000000000000000000002\",\"OWNER\"]," ++
    "\"id\":\"00000000-0000-0000-0000-000000000001\"\x7d"

theorem ofWire_sampleText : ofWire sampleText = .ok sampleLeap := by
  have hoption : (ofWire sampleText).toOption = some sampleLeap := by decide +kernel
  cases hread : ofWire sampleText with
  | error e =>
    rw [hread] at hoption
    cases hoption
  | ok r =>
    rw [hread] at hoption
    exact congrArg Except.ok (Option.some.inj hoption)

/-- The text and the record as written are read as the same record, but what was written has lost
the fractions of a millisecond. -/
theorem wire_round_trip_sampleLeap :
    ofWire sampleText = .ok sampleLeap ∧
      ofWire sampleLeap.wire = .ok { sampleLeap with timestamp := ⟨1717243259, 1123000000⟩ } ∧
        (ofWire sampleLeap.wire).map wire = .ok sampleLeap.wire := by
  have hclock : sampleLeap.timestamp.IsClock := Or.inr (by decide)
  have hyear : sampleLeap.timestamp.InFourDigits := ⟨by decide, by decide⟩
  exact ⟨ofWire_sampleText, wire_round_trip.2 sampleText sampleLeap ofWire_sampleText hyear,
    (wire_round_trip.1 sampleLeap hclock hyear).2.1⟩

end AdminConsole.AuditRecord
