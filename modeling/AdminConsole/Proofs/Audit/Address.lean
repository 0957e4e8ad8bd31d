import AdminConsole.Audit.Agents
import AdminConsole.Audit.Origin
import AdminConsole.Proofs.Net.Printing
import AdminConsole.Proofs.Text.Trim
import Mathlib.Logic.Relation

/-! # The recorded address

The address of a request is the one that a proxy names in the list of hops, else the one it names on
its own, else that of the peer.  What a field names is said of its bytes (`ProxyField.ValueNames`),
and each reader finds that address and no other (`ProxyField.read?_eq_some_iff`), so the recorded
address is the one from the first source that names one (`Origin.IsFrom`).

Two lists of fields that name the same are therefore one to the record.  Changes that nobody should
notice in it are collected in `Headers.Trifle`; each of them leaves alone what is named
(`Headers.Trifle.names_iff`), and so does any run of them, back and forth.

A value that holds an unreadable byte has no text at all, wherever in it that byte is.  It names
nothing, not even by the hops before that byte.
-/
namespace AdminConsole

namespace Headers

variable {h : Headers} {name : String} {value : List UInt8} {s : String}

/-- The first field of the name has this value. -/
def FirstIs (h : Headers) (name : String) (value : List UInt8) : Prop :=
  ∃ before field after, h = before ++ field :: after ∧ sameName field.1 name = true ∧
    field.2 = value ∧ ∀ other ∈ before, sameName other.1 name = false

theorem first?_eq_some_iff : h.first? name = some value ↔ h.FirstIs name value := by
  rw [first?, Option.map_eq_some_iff]
  constructor
  · rintro ⟨field, hfound, rfl⟩
    obtain ⟨hname, before, after, rfl, hbefore⟩ := List.find?_eq_some_iff_append.mp hfound
    exact ⟨before, field, after, rfl, hname, rfl, fun other hother => by
      simpa using hbefore other hother⟩
  · rintro ⟨before, field, after, rfl, hname, rfl, hbefore⟩
    refine ⟨field, List.find?_eq_some_iff_append.mpr ⟨hname, before, after, rfl, ?_⟩, rfl⟩
    exact fun other hother => by simpa using hbefore other hother

theorem sameName_iff {other : String} : sameName name other = true ↔
    name.toList.map Char.toLower = other.toList.map Char.toLower := by
  rw [sameName, beq_iff_eq, lowered, lowered, ← String.toList_inj, String.toList_map,
    String.toList_map]

theorem text?_eq_some_iff : text? value = some s ↔
    value.all isReadable = true ∧ s.toList = value.map fun b => Char.ofNat b.toNat := by
  unfold text?
  split
  · next hall => rw [Option.some.injEq, ← String.toList_inj, String.toList_ofList,
      eq_comm, and_iff_right hall]
  · next hsome => exact iff_of_false (fun h => by cases h) fun h => hsome h.1

end Headers

theorem IpAddress.IsAddressChar.not_isBlank {c : Char} (hc : IsAddressChar c) :
    Text.isBlank c = false := by
  refine Text.not_isBlank_of_visible ?_
  rcases hc with hdigit | rfl | rfl
  · unfold Hex.value? at hdigit
    dsimp only at hdigit
    split at hdigit
    · omega
    · split at hdigit
      · omega
      · split at hdigit
        · omega
        · cases hdigit
  · decide
  · decide

/-- A header field in which a proxy names the client. -/
inductive ProxyField
  | forwardedFor
  | realIp
  deriving DecidableEq, Repr

namespace ProxyField

variable {field : ProxyField} {value : List UInt8} {h : Headers} {a b : IpAddress} {cs : List Char}

/-- The name of the field. -/
def name : ProxyField → String
  | forwardedFor => "x-forwarded-for"
  | realIp => "x-real-ip"

/-- The part of a field's text that counts: of a list of hops, what stands before the first
comma. -/
def IsPart : ProxyField → List Char → List Char → Prop
  | forwardedFor, cs, part => ',' ∉ part ∧ (cs = part ∨ ∃ later, cs = part ++ ',' :: later)
  | realIp, cs, part => cs = part

/-- The text of an address with blanks around it. -/
def IsPadded (cs : List Char) (a : IpAddress) : Prop :=
  ∃ before core after, (∀ c ∈ before, Text.isBlank c = true) ∧
    (∀ c ∈ after, Text.isBlank c = true) ∧ before ++ core ++ after = cs ∧ IpAddress.Denotes core a

/-- A field with this value names the address: the value can be read, and the part of its text that
counts is that of the address. -/
def ValueNames (field : ProxyField) (value : List UInt8) (a : IpAddress) : Prop :=
  ∃ s part, Headers.text? value = some s ∧ field.IsPart s.toList part ∧ IsPadded part a

/-- The first field of the name names the address. -/
def Names (field : ProxyField) (h : Headers) (a : IpAddress) : Prop :=
  ∃ value, h.FirstIs field.name value ∧ field.ValueNames value a

/-! ## The address that a field names -/

/-- The address that is read in the field. -/
def read? : ProxyField → Headers → Option IpAddress
  | forwardedFor => Origin.forwardedFor?
  | realIp => Origin.realIp?

/-- The part of a text that is read. -/
def part : ProxyField → List Char → List Char
  | forwardedFor => Text.upTo ','
  | realIp => id

/-- The address that is read in a value of the field. -/
def valueAddress? (field : ProxyField) (value : List UInt8) : Option IpAddress :=
  (Headers.text? value).bind fun s => Origin.address? (field.part s.toList)

theorem read?_eq (field : ProxyField) (h : Headers) :
    field.read? h = (h.first? field.name).bind field.valueAddress? := by
  have hread : field.read? h = ((h.first? field.name).bind Headers.text?).bind fun s =>
      Origin.address? (field.part s.toList) := by
    cases field <;> rfl
  rw [hread, Option.bind_assoc]
  rfl

theorem isPart_iff {part : List Char} : field.IsPart cs part ↔ field.part cs = part := by
  cases field with
  | forwardedFor => exact Text.upTo_eq_iff.symm
  | realIp => exact Iff.rfl

theorem address?_eq_some_iff : Origin.address? cs = some a ↔ IsPadded cs a := by
  rw [Origin.address?, IpAddress.parse?_eq_some_iff, String.toList_ofList]
  constructor
  · intro hdenotes
    obtain ⟨before, after, hbefore, hafter, hsplit⟩ := Text.exists_blanks_around cs
    exact ⟨before, _, after, hbefore, hafter, hsplit, hdenotes⟩
  · rintro ⟨before, core, after, hbefore, hafter, rfl, hdenotes⟩
    rwa [Text.trimChars_between hbefore
      (fun c hc => (hdenotes.isAddressChar c hc).not_isBlank) hafter]

theorem valueNames_iff : field.ValueNames value a ↔ field.valueAddress? value = some a := by
  rw [valueAddress?, Option.bind_eq_some_iff]
  constructor
  · rintro ⟨s, part, htext, hpart, hpadded⟩
    obtain rfl := isPart_iff.mp hpart
    exact ⟨s, htext, address?_eq_some_iff.mpr hpadded⟩
  · rintro ⟨s, htext, haddress⟩
    exact ⟨s, _, htext, isPart_iff.mpr rfl, address?_eq_some_iff.mp haddress⟩

theorem names_iff : field.Names h a ↔
    ∃ value, h.first? field.name = some value ∧ field.ValueNames value a :=
  exists_congr fun _ => and_congr_left' Headers.first?_eq_some_iff.symm

/-- **A field is read to the address that it names.** -/
theorem read?_eq_some_iff : field.read? h = some a ↔ field.Names h a := by
  rw [read?_eq, Option.bind_eq_some_iff, names_iff]
  exact exists_congr fun value => and_congr_right' valueNames_iff.symm

theorem read?_eq_none_iff : field.read? h = none ↔ ∀ a, ¬ field.Names h a := by
  rw [Option.eq_none_iff_forall_ne_some]
  exact forall_congr' fun a => not_congr read?_eq_some_iff

theorem Names.eq (ha : field.Names h a) (hb : field.Names h b) : a = b :=
  Option.some.inj ((read?_eq_some_iff.mpr ha).symm.trans (read?_eq_some_iff.mpr hb))

/-- What cannot be read names nothing. -/
theorem not_valueNames_of_unreadable (hvalue : ∃ b ∈ value, Headers.isReadable b = false) :
    ¬ field.ValueNames value a := by
  rintro ⟨s, -, htext, -⟩
  obtain ⟨b, hb, hunreadable⟩ := hvalue
  rw [List.all_eq_true.mp (Headers.text?_eq_some_iff.mp htext).1 b hb] at hunreadable
  cases hunreadable

end ProxyField

/-! ## What leaves alone what is named -/

namespace Headers

open ProxyField

variable {field : ProxyField} {a : IpAddress} {before after after' h h' : Headers}

/-- The value is the hop, or the hop and more after a comma. -/
def StartsWithHop (hop value : List UInt8) : Prop :=
  value = hop ∨ ∃ later, later.all isReadable = true ∧ value = hop ++ 0x2c :: later

/-- A change of the fields that the recorded address should not depend on. -/
inductive Trifle : Headers → Headers → Prop
  /-- A field in which no proxy names anything is left out. -/
  | other {before after : Headers} {field : String × List UInt8}
      (hname : ∀ proxy : ProxyField, sameName field.1 proxy.name = false) :
      Trifle (before ++ field :: after) (before ++ after)
  /-- A field is left out that repeats an earlier one. -/
  | repeated {before after : Headers} {field earlier : String × List UInt8}
      (hearlier : earlier ∈ before) (hname : sameName earlier.1 field.1 = true) :
      Trifle (before ++ field :: after) (before ++ after)
  /-- The hops after the first are others. -/
  | laterHops {before after : Headers} {name : String} {hop value value' : List UInt8}
      (hname : sameName name forwardedFor.name = true) (hvalue : StartsWithHop hop value)
      (hvalue' : StartsWithHop hop value') :
      Trifle (before ++ (name, value) :: after) (before ++ (name, value') :: after)
  /-- A value that names no address is another such value. -/
  | unnamed {before after : Headers} {name : String} {value value' : List UInt8}
      (proxy : ProxyField) (hname : sameName name proxy.name = true)
      (hvalue : ∀ a, ¬ proxy.ValueNames value a) (hvalue' : ∀ a, ¬ proxy.ValueNames value' a) :
      Trifle (before ++ (name, value) :: after) (before ++ (name, value') :: after)
  /-- A field with a value that names no address is left out, if it is the last of its name. -/
  | absent {before after : Headers} {name : String} {value : List UInt8} (proxy : ProxyField)
      (hname : sameName name proxy.name = true) (hvalue : ∀ a, ¬ proxy.ValueNames value a)
      (hlast : ∀ later ∈ after, sameName later.1 proxy.name = false) :
      Trifle (before ++ (name, value) :: after) (before ++ after)

theorem first?_append (before after : Headers) (name : String) :
    (before ++ after).first? name = (before.first? name).or (after.first? name) := by
  rw [first?, List.find?_append, Option.map_or]
  rfl

/-- Behind the same fields, only what these leave open counts. -/
theorem names_append_congr
    (hafter : (∀ earlier ∈ before, sameName earlier.1 field.name = false) →
      (field.Names after a ↔ field.Names after' a)) :
    field.Names (before ++ after) a ↔ field.Names (before ++ after') a := by
  rw [names_iff, names_iff, first?_append, first?_append]
  cases hbefore : before.first? field.name with
  | some value => rfl
  | none =>
    rw [Option.none_or, Option.none_or, ← names_iff, ← names_iff]
    refine hafter fun earlier hearlier => ?_
    rw [first?, Option.map_eq_none_iff, List.find?_eq_none] at hbefore
    simpa using hbefore earlier hearlier

theorem names_cons_of_same {x : String × List UInt8} (hname : sameName x.1 field.name = true) :
    field.Names (x :: after) a ↔ field.ValueNames x.2 a := by
  have hfirst : first? (x :: after) field.name = some x.2 := by
    rw [first?, List.find?_cons, hname]
    rfl
  rw [names_iff, hfirst]
  simp

theorem names_cons_of_other {x : String × List UInt8} (hname : sameName x.1 field.name = false) :
    field.Names (x :: after) a ↔ field.Names after a := by
  rw [names_iff, first?, List.find?_cons, hname, names_iff]
  rfl

/-- A name is that of one field only. -/
theorem eq_of_sameName {name : String} {proxy : ProxyField}
    (hproxy : sameName name proxy.name = true) (hname : sameName name field.name = true) :
    proxy = field := by
  have hlowered := (sameName_iff.mp hproxy).symm.trans (sameName_iff.mp hname)
  revert hlowered
  cases proxy <;> cases field <;> decide

/-- Two values of a field that name the same are one in it. -/
theorem names_replace {name : String} {value value' : List UInt8} (proxy : ProxyField)
    (hname : sameName name proxy.name = true)
    (hvalue : proxy.ValueNames value a ↔ proxy.ValueNames value' a) :
    field.Names (before ++ (name, value) :: after) a ↔
      field.Names (before ++ (name, value') :: after) a := by
  refine names_append_congr fun _ => ?_
  cases hfield : sameName name field.name with
  | true =>
    obtain rfl := eq_of_sameName hname hfield
    rw [names_cons_of_same hfield, names_cons_of_same hfield]
    exact hvalue
  | false => rw [names_cons_of_other hfield, names_cons_of_other hfield]

/-- Of a list of hops, the first is read. -/
theorem StartsWithHop.valueAddress?_eq {hop value : List UInt8} (hvalue : StartsWithHop hop value) :
    forwardedFor.valueAddress? value = forwardedFor.valueAddress? hop := by
  rcases hvalue with rfl | ⟨later, hlater, rfl⟩
  · rfl
  · have hall : (hop ++ 0x2c :: later).all isReadable = hop.all isReadable := by
      rw [List.all_append, List.all_cons, hlater]
      exact Bool.and_true _
    unfold valueAddress? text?
    rw [hall]
    split
    · rw [Option.bind_some, Option.bind_some, String.toList_ofList, String.toList_ofList,
        List.map_append, List.map_cons]
      exact congrArg Origin.address? (Text.upTo_append_separator ',' _ _)
    · rfl

theorem StartsWithHop.valueNames_iff {hop value : List UInt8} (hvalue : StartsWithHop hop value) :
    forwardedFor.ValueNames value a ↔ forwardedFor.ValueNames hop a := by
  rw [ProxyField.valueNames_iff, ProxyField.valueNames_iff, hvalue.valueAddress?_eq]

/-- **A trifle changes nothing that is named.** -/
theorem Trifle.names_iff (htrifle : Trifle h h') : field.Names h a ↔ field.Names h' a := by
  cases htrifle with
  | other hname => exact names_append_congr fun _ => names_cons_of_other (hname field)
  | @repeated before after x earlier hearlier hname =>
    refine names_append_congr fun hbefore => names_cons_of_other ?_
    have hsame : lowered earlier.1 = lowered x.1 := beq_iff_eq.mp hname
    rw [← hbefore earlier hearlier, sameName, sameName, hsame]
  | laterHops hname hvalue hvalue' =>
    exact names_replace forwardedFor hname (hvalue.valueNames_iff.trans hvalue'.valueNames_iff.symm)
  | unnamed proxy hname hvalue hvalue' =>
    exact names_replace proxy hname (iff_of_false (hvalue a) (hvalue' a))
  | @absent before after name value proxy hname hvalue hlast =>
    refine names_append_congr fun _ => ?_
    cases hfield : sameName name field.name with
    | true =>
      obtain rfl := eq_of_sameName hname hfield
      rw [names_cons_of_same hfield]
      refine iff_of_false (hvalue a) ?_
      rintro ⟨_, ⟨front, x, back, rfl, hx, -⟩, -⟩
      rw [hlast x (List.mem_append_right front List.mem_cons_self)] at hx
      cases hx
    | false => exact names_cons_of_other hfield

/-- The same addresses are named. -/
def NameAlike (h h' : Headers) : Prop :=
  ∀ (field : ProxyField) (a : IpAddress), field.Names h a ↔ field.Names h' a

/-- **Trifles one after the other, back and forth, change nothing that is named.** -/
theorem nameAlike_of_trifles (htrifles : Relation.EqvGen Trifle h h') : NameAlike h h' := by
  induction htrifles with
  | rel h h' htrifle => exact fun _ _ => htrifle.names_iff
  | refl h => exact fun _ _ => Iff.rfl
  | symm h h' _ ih => exact fun field a => (ih field a).symm
  | trans h h' h'' _ _ ih ih' => exact fun field a => (ih field a).trans (ih' field a)

end Headers

namespace Origin

open ProxyField

/-- Where the address of a request is from. -/
inductive IsFrom (trustProxy : Bool) (peer : Option IpAddress) (h : Headers) : IpAddress → Prop
  | forwardedFor {a : IpAddress} (htrust : trustProxy = true) (ha : forwardedFor.Names h a) :
      IsFrom trustProxy peer h a
  | realIp {a : IpAddress} (htrust : trustProxy = true) (hnone : ∀ b, ¬ forwardedFor.Names h b)
      (ha : realIp.Names h a) : IsFrom trustProxy peer h a
  | peer (hnone : trustProxy = true → ∀ (field : ProxyField) (b : IpAddress), ¬ field.Names h b) :
      IsFrom trustProxy peer h (peer.getD IpAddress.loopback)

variable {trustProxy : Bool} {peer : Option IpAddress} {h h' : Headers} {a : IpAddress}

theorem clientAddress_true (peer : Option IpAddress) (h : Headers) : clientAddress true peer h =
    ((forwardedFor.read? h).or (realIp.read? h)).getD (peer.getD IpAddress.loopback) := by
  show ((forwardedFor? h).orElse fun _ => realIp? h).getD _ =
    ((forwardedFor? h).or (realIp? h)).getD _
  cases forwardedFor? h <;> rfl

theorem isFrom_clientAddress (trustProxy : Bool) (peer : Option IpAddress) (h : Headers) :
    IsFrom trustProxy peer h (clientAddress trustProxy peer h) := by
  cases trustProxy with
  | false => exact .peer fun htrust => by cases htrust
  | true =>
    rw [clientAddress_true]
    cases hforwarded : forwardedFor.read? h with
    | some a => exact .forwardedFor rfl (read?_eq_some_iff.mp hforwarded)
    | none =>
      have hnone := read?_eq_none_iff.mp hforwarded
      cases hreal : realIp.read? h with
      | some a => exact .realIp rfl hnone (read?_eq_some_iff.mp hreal)
      | none =>
        refine .peer fun _ field => ?_
        cases field with
        | forwardedFor => exact hnone
        | realIp => exact read?_eq_none_iff.mp hreal

theorem IsFrom.clientAddress_eq (ha : IsFrom trustProxy peer h a) :
    clientAddress trustProxy peer h = a := by
  cases ha with
  | forwardedFor htrust ha =>
    rw [htrust, clientAddress_true, read?_eq_some_iff.mpr ha]
    rfl
  | realIp htrust hnone ha =>
    rw [htrust, clientAddress_true, read?_eq_none_iff.mpr hnone, read?_eq_some_iff.mpr ha]
    rfl
  | peer hnone =>
    cases trustProxy with
    | false => rfl
    | true =>
      rw [clientAddress_true, read?_eq_none_iff.mpr (hnone rfl .forwardedFor),
        read?_eq_none_iff.mpr (hnone rfl .realIp)]
      rfl

/-- What is named alike is from the same source. -/
theorem IsFrom.of_nameAlike (halike : Headers.NameAlike h h') (ha : IsFrom trustProxy peer h a) :
    IsFrom trustProxy peer h' a := by
  cases ha with
  | forwardedFor htrust ha => exact .forwardedFor htrust ((halike _ _).mp ha)
  | realIp htrust hnone ha =>
    exact .realIp htrust (fun b hb => hnone b ((halike _ _).mpr hb)) ((halike _ _).mp ha)
  | peer hnone =>
    exact .peer fun htrust field b hb => hnone htrust field b ((halike field b).mpr hb)

/-- The peer is not asked where a field names an address. -/
theorem IsFrom.of_names {field : ProxyField} {b : IpAddress} (hnames : field.Names h b)
    (ha : IsFrom true peer h a) (peer' : Option IpAddress) : IsFrom true peer' h a := by
  cases ha with
  | forwardedFor htrust ha => exact .forwardedFor htrust ha
  | realIp htrust hnone ha => exact .realIp htrust hnone ha
  | peer hnone => exact absurd hnames (hnone rfl field b)

/-- **The recorded address depends on nothing but the first source that names one.**  Without a
trusted proxy no header changes it.  Behind one, only the addresses that the two fields name do:
not how they are written, not the hops after the first, not a repeated field, not a value that
names nothing, not another field.  The proxy's single address does not matter where the list of
hops starts with one, and the peer does not matter where either field names one.  What is recorded
is always the printed text of the address, which reads as that address and holds nothing but digits,
dots and colons. -/
theorem ip_is_of_first_source (recognise : String → Option Agent) (peer : Option IpAddress)
    (h h' : Headers) :
    let ip := fun trustProxy peer h => (ofRequest recognise trustProxy peer h).ip
    ip false peer h = ip false peer h' ∧
    (Headers.NameAlike h h' → ip true peer h = ip true peer h') ∧
    (Relation.EqvGen Headers.Trifle h h' → ip true peer h = ip true peer h') ∧
    (∀ a peer', forwardedFor.Names h a → forwardedFor.Names h' a →
      ip true peer h = ip true peer' h') ∧
    (∀ (field : ProxyField) (a : IpAddress) (peer' : Option IpAddress), field.Names h a →
      Headers.NameAlike h h' → ip true peer h = ip true peer' h') ∧
    ∀ trustProxy, ∃ a, IsFrom trustProxy peer h a ∧ ip trustProxy peer h = a.text ∧
      IpAddress.parse? (ip trustProxy peer h) = some a ∧
      ∀ c ∈ (ip trustProxy peer h).toList, IpAddress.IsAddressChar c := by
  intro ip
  have hip : ∀ {trustProxy peer h a}, IsFrom trustProxy peer h a →
      ip trustProxy peer h = a.text := fun ha => congrArg IpAddress.text ha.clientAddress_eq
  have halike : ∀ {peer'}, Headers.NameAlike h h' → IsFrom true peer' h (clientAddress true peer h) →
      ip true peer h = ip true peer' h' := fun halike ha =>
    (hip (isFrom_clientAddress true peer h)).trans (hip (ha.of_nameAlike halike)).symm
  refine ⟨rfl, fun hnames => halike hnames (isFrom_clientAddress true peer h), fun htrifles =>
    halike (Headers.nameAlike_of_trifles htrifles) (isFrom_clientAddress true peer h), ?_, ?_, ?_⟩
  · intro a peer' ha ha'
    rw [hip (.forwardedFor rfl ha), hip (.forwardedFor rfl ha')]
  · intro field a peer' ha hnames
    exact halike hnames ((isFrom_clientAddress true peer h).of_names ha peer')
  · intro trustProxy
    refine ⟨_, isFrom_clientAddress trustProxy peer h, rfl, IpAddress.parse?_text _, ?_⟩
    exact (IpAddress.denotes_text _).isAddressChar

/-- A repeated field, a cookie, an address that cannot be read and a second hop are trifles: without
them the same address is recorded, from whichever peer. -/
theorem ip_is_of_first_source_padded :
    let hop := Utf8.encode " 203.0.113.50 "
    let h : Headers := [("x-forwarded-for", hop ++ 0x2c :: Utf8.encode " 70.41.3.18"),
      ("Cookie", Utf8.encode "session=1"), ("X-Forwarded-For", Utf8.encode "192.0.2.1"),
      ("x-real-ip", [0xff])]
    let h' : Headers := [("x-forwarded-for", hop)]
    Relation.EqvGen Headers.Trifle h h' ∧ Headers.NameAlike h h' ∧
      forwardedFor.Names h (.v4 #v[203, 0, 113, 50]) ∧
      (ofRequest Agent.ofText? true none h).ip = "203.0.113.50" ∧
      (ofRequest Agent.ofText? true (some IpAddress.loopback) h').ip = "203.0.113.50" := by
  intro hop h h'
  have hother : Headers.Trifle h [h[0], h[2], h[3]] :=
    @Headers.Trifle.other [h[0]] [h[2], h[3]] h[1] fun proxy => by cases proxy <;> decide +kernel
  have hrepeated : Headers.Trifle [h[0], h[2], h[3]] [h[0], h[3]] :=
    @Headers.Trifle.repeated [h[0]] [h[3]] h[2] h[0] List.mem_cons_self
      (Headers.sameName_iff.mpr (by decide))
  have habsent : Headers.Trifle [h[0], h[3]] [h[0]] :=
    @Headers.Trifle.absent [h[0]] [] _ _ realIp (by decide +kernel)
      (fun a => not_valueNames_of_unreadable ⟨0xff, List.mem_cons_self, rfl⟩)
      fun later hlater => absurd hlater List.not_mem_nil
  have hlater : Headers.Trifle [h[0]] h' :=
    @Headers.Trifle.laterHops [] [] _ _ _ _ (by decide +kernel)
      (Or.inr ⟨Utf8.encode " 70.41.3.18", by decide +kernel, rfl⟩) (Or.inl rfl)
  have htrifles : Relation.EqvGen Headers.Trifle h h' :=
    (((Relation.EqvGen.rel _ _ hother).trans _ _ _ (.rel _ _ hrepeated)).trans _ _ _
      (.rel _ _ habsent)).trans _ _ _ (.rel _ _ hlater)
  have halike : Headers.NameAlike h h' := Headers.nameAlike_of_trifles htrifles
  have hnames : forwardedFor.Names h (.v4 #v[203, 0, 113, 50]) :=
    read?_eq_some_iff.mp (by decide +kernel)
  obtain ⟨-, -, -, -, hpeer, -⟩ := ip_is_of_first_source Agent.ofText? none h h'
  have hip : (ofRequest Agent.ofText? true none h).ip = "203.0.113.50" := by decide +kernel
  exact ⟨htrifles, halike, hnames, hip,
    (hpeer _ _ (some IpAddress.loopback) hnames halike).symm.trans hip⟩

/-- An unreadable byte behind the first hop makes the whole list unreadable. -/
example :
    let h : Headers := [("x-forwarded-for", Utf8.encode "203.0.113.50, " ++ [0xff])]
    (ofRequest Agent.ofText? true none h).ip = "127.0.0.1" := by decide +kernel

end Origin

end AdminConsole
