import AdminConsole.Audit.Agents
import AdminConsole.Audit.Origin
import AdminConsole.Proofs.Text.Plain

/-! # Device labels

The label of a device comes from the first characters of the user agent, and
what these are taken for comes in three kinds (`Device.Labels`): nothing, when
there is no user agent or all of them are blanks; an agent that is recognised;
or else a text, of which fewer characters still are kept.

So a label holds nothing but readable characters, and is short unless it names an
agent.  But whether there is more than blanks is asked before the text is cut
for the second time.  A label is blank for one kind of user agent, which is
`Device.Obscured`: nothing but blanks is kept of it, what is not blank comes
later, and it is not recognised (`Origin.device_is_usable`).
-/
namespace AdminConsole

namespace Text

variable {s : String}

/-- A name that can be shown: printable characters, and one at least that is no blank. -/
structure Presentable (s : String) : Prop where
  printable : ∀ c ∈ s.toList, 0x20 ≤ c.toNat ∧ c.toNat ≤ 0x7e
  nonblank : ∃ c ∈ s.toList, isBlank c = false

theorem presentable_iff : Presentable s ↔
    s.toList.all (fun c => decide (0x20 ≤ c.toNat ∧ c.toNat ≤ 0x7e)) = true ∧
      s.toList.any (fun c => !isBlank c) = true := by
  simp only [List.all_eq_true, List.any_eq_true, decide_eq_true_eq, Bool.not_eq_true']
  exact ⟨fun h => ⟨h.printable, h.nonblank⟩, fun h => ⟨h.1, h.2⟩⟩

instance (s : String) : Decidable (Presentable s) := decidable_of_iff' _ presentable_iff

theorem Presentable.isReadableChar (h : Presentable s) :
    ∀ c ∈ s.toList, Headers.IsReadableChar c := fun c hc => Or.inr (h.printable c hc)

theorem not_isBlankText_iff : ¬ IsBlankText s ↔ ∃ c ∈ s.toList, isBlank c = false := by
  simp only [IsBlankText, Classical.not_forall, exists_prop, Bool.not_eq_true]

theorem nonblank_of_isBlankText (h : IsBlankText s) : Text.nonblank (some s) = none := by
  rw [Text.nonblank, Option.filter_some, decide_eq_true h]
  rfl

theorem nonblank_of_not_isBlankText (h : ¬ IsBlankText s) : Text.nonblank (some s) = some s := by
  rw [Text.nonblank, Option.filter_some, decide_eq_false h]
  rfl

end Text

namespace Agent

/-- The name of the agent and that of its system can be shown. -/
structure Presentable (a : Agent) : Prop where
  name : Text.Presentable a.name
  system : Text.Presentable a.system

instance (a : Agent) : Decidable a.Presentable :=
  decidable_of_iff (Text.Presentable a.name ∧ Text.Presentable a.system)
    ⟨fun h => ⟨h.1, h.2⟩, fun h => ⟨h.name, h.system⟩⟩

theorem label_eq (a : Agent) : a.label = a.name ∨ a.label = a.name ++ " on " ++ a.system := by
  unfold label
  split
  · exact Or.inl rfl
  · exact Or.inr rfl

variable {a : Agent}

theorem Presentable.label (h : a.Presentable) :
    (∀ c ∈ a.label.toList, Headers.IsReadableChar c) ∧
      ∃ c ∈ a.label.toList, Text.isBlank c = false := by
  obtain ⟨c, hc, hblank⟩ := h.name.nonblank
  rcases a.label_eq with hlabel | hlabel
  · rw [hlabel]
    exact ⟨h.name.isReadableChar, c, hc, hblank⟩
  · rw [hlabel, String.toList_append, String.toList_append]
    have hbetween : Text.Presentable " on " := by decide
    refine ⟨?_, c, List.mem_append_left _ (List.mem_append_left _ hc), hblank⟩
    exact List.forall_mem_append.mpr ⟨List.forall_mem_append.mpr
      ⟨h.name.isReadableChar, hbetween.isReadableChar⟩, h.system.isReadableChar⟩

end Agent

namespace Device

variable {recognise : String → Option Agent} {h : Headers}

/-- The user agent of a request, as far as it is looked at. -/
def userAgent? (h : Headers) : Option (List Char) :=
  (h.readable? "user-agent").map fun s => s.toList.take readLimit

/-- What a request is labelled, and why. -/
inductive Labels (recognise : String → Option Agent) (h : Headers) : String → Prop
  /-- There is no user agent, or nothing but blanks is looked at. -/
  | unknown (hblank : ∀ cs ∈ userAgent? h, ∀ c ∈ cs, Text.isBlank c = true) :
      Labels recognise h unknown
  /-- The user agent is that of a known agent. -/
  | agent {cs : List Char} {a : Agent} (hagent : userAgent? h = some cs)
      (hcontent : ∃ c ∈ cs, Text.isBlank c = false)
      (hrecognise : recognise (String.ofList cs) = some a) (hnamed : a.name ≠ Agent.unnamed) :
      Labels recognise h a.label
  /-- The user agent is that of no known agent. -/
  | text {cs : List Char} (hagent : userAgent? h = some cs)
      (hcontent : ∃ c ∈ cs, Text.isBlank c = false)
      (hunnamed : ∀ a, recognise (String.ofList cs) = some a → a.name = Agent.unnamed) :
      Labels recognise h (String.ofList (cs.take labelLimit))

theorem presentable_unknown : Text.Presentable unknown := by decide

theorem mem_userAgent? {cs : List Char} (hcs : userAgent? h = some cs) :
    ∀ c ∈ cs, Headers.IsReadableChar c := by
  obtain ⟨s, hs, rfl⟩ := Option.map_eq_some_iff.mp hcs
  exact fun c hc => Headers.isReadableChar_of_readable? hs c (List.mem_of_mem_take hc)

/-- No control character but the tab is readable, and the tab is a blank. -/
theorem readable_eq {s : String} (hs : ∀ c ∈ s.toList, Headers.IsReadableChar c) :
    readable s = String.ofList (s.toList.take readLimit) := by
  have hall : ∀ c ∈ s.toList, (!isControl c || Text.isBlank c) = true := by
    intro c hc
    rcases hs c hc with rfl | ⟨hfrom, hto⟩
    · rfl
    · have hcontrol : isControl c = false := by
        unfold isControl
        simp only [Bool.or_eq_false_iff, Bool.and_eq_false_iff, decide_eq_false_iff_not]
        omega
      rw [hcontrol]
      rfl
  rw [readable, List.filter_eq_self.mpr hall]

/-- A text that is looked at is labelled by its agent if that is known, and by itself otherwise. -/
theorem labels_of_content {cs : List Char} (hagent : userAgent? h = some cs)
    (hcontent : ∃ c ∈ cs, Text.isBlank c = false) :
    Labels recognise h (match (recognise (String.ofList cs)).filter Agent.isNamed with
      | some agent => agent.label
      | none => String.ofList (cs.take labelLimit)) := by
  cases hnamed : (recognise (String.ofList cs)).filter Agent.isNamed with
  | some a =>
    obtain ⟨hrecognise, hname⟩ := Option.filter_eq_some_iff.mp hnamed
    exact .agent hagent hcontent hrecognise (bne_iff_ne.mp hname)
  | none =>
    refine .text hagent hcontent fun a hrecognise => ?_
    have hunnamed := Option.filter_eq_none_iff.mp hnamed a hrecognise
    simpa [Agent.isNamed] using hunnamed

/-- **The label of a request is what it is labelled.** -/
theorem labels_ofHeaders (recognise : String → Option Agent) (h : Headers) :
    Labels recognise h (ofHeaders recognise h) := by
  unfold ofHeaders labelWith
  cases hs : h.readable? "user-agent" with
  | none =>
    refine .unknown fun cs hcs => ?_
    rw [userAgent?, hs] at hcs
    cases hcs
  | some s =>
    have hagent : userAgent? h = some (s.toList.take readLimit) := by
      rw [userAgent?, hs, Option.map_some]
    rw [Option.map_some, readable_eq (Headers.isReadableChar_of_readable? hs)]
    generalize s.toList.take readLimit = cs at hagent
    by_cases hblank : Text.IsBlankText (String.ofList cs)
    · rw [Text.nonblank_of_isBlankText hblank]
      refine .unknown fun ds hds => ?_
      obtain rfl : cs = ds := Option.some.inj (hagent.symm.trans hds)
      rw [Text.IsBlankText, String.toList_ofList] at hblank
      exact hblank
    · rw [Text.nonblank_of_not_isBlankText hblank]
      rw [Text.not_isBlankText_iff, String.toList_ofList] at hblank
      dsimp only
      rw [String.toList_ofList]
      exact labels_of_content hagent hblank

/-! ## What is recorded -/

/-- Nothing but blanks is kept of a user agent of which more is looked at, and which is that of no
known agent. -/
def Obscured (recognise : String → Option Agent) (h : Headers) : Prop :=
  ∃ cs, userAgent? h = some cs ∧ (∀ c ∈ cs.take labelLimit, Text.isBlank c = true) ∧
    (∃ c ∈ cs, Text.isBlank c = false) ∧
    ∀ a, recognise (String.ofList cs) = some a → a.name = Agent.unnamed

namespace Labels

variable {label : String}

theorem isReadableChar (hlabel : Labels recognise h label)
    (hrecognise : ∀ s a, recognise s = some a → a.Presentable) :
    ∀ c ∈ label.toList, Headers.IsReadableChar c := by
  cases hlabel with
  | unknown => exact presentable_unknown.isReadableChar
  | agent hagent hcontent hknown hnamed => exact (hrecognise _ _ hknown).label.1
  | text hagent hcontent hunnamed =>
    rw [String.toList_ofList]
    exact fun c hc => mem_userAgent? hagent c (List.mem_of_mem_take hc)

/-- A label is short, or names the agent. -/
theorem length_le (hlabel : Labels recognise h label) : label.length ≤ labelLimit ∨
    ∃ cs a, userAgent? h = some cs ∧ recognise (String.ofList cs) = some a ∧
      (label = a.name ∨ label = a.name ++ " on " ++ a.system) := by
  cases hlabel with
  | unknown => exact Or.inl (by decide)
  | agent hagent hcontent hknown hnamed => exact Or.inr ⟨_, _, hagent, hknown, Agent.label_eq _⟩
  | text hagent hcontent hunnamed =>
    left
    rw [String.length_ofList, List.length_take]
    exact Nat.min_le_left _ _

theorem nonblank_iff (hlabel : Labels recognise h label)
    (hrecognise : ∀ s a, recognise s = some a → a.Presentable) :
    (∃ c ∈ label.toList, Text.isBlank c = false) ↔ ¬ Obscured recognise h := by
  cases hlabel with
  | unknown hblank =>
    refine iff_of_true presentable_unknown.nonblank ?_
    rintro ⟨cs, hcs, -, ⟨c, hc, hcontent⟩, -⟩
    rw [hblank cs hcs c hc] at hcontent
    cases hcontent
  | agent hagent hcontent hknown hnamed =>
    refine iff_of_true (hrecognise _ _ hknown).label.2 ?_
    rintro ⟨ds, hds, -, -, hunnamed⟩
    obtain rfl := Option.some.inj (hagent.symm.trans hds)
    exact hnamed (hunnamed _ hknown)
  | @text cs hagent hcontent hunnamed =>
    have hobscured : Obscured recognise h ↔ ∀ c ∈ cs.take labelLimit, Text.isBlank c = true := by
      constructor
      · rintro ⟨ds, hds, hkept, -, -⟩
        obtain rfl := Option.some.inj (hagent.symm.trans hds)
        exact hkept
      · exact fun hkept => ⟨cs, hagent, hkept, hcontent, hunnamed⟩
    rw [← Text.not_isBlankText_iff, Text.IsBlankText, String.toList_ofList, hobscured]

end Labels

end Device

/-- **The recorded device is usable, unless it is obscured.**  Whatever recognises user agents, if
it finds names only that can be shown, then for every request the label holds readable characters
only; it has at most 64 of them, unless it is the name of the agent or that name with the name of
its system; and it holds more than blanks, except where nothing but blanks is kept of the user
agent. -/
theorem Origin.device_is_usable (recognise : String → Option Agent)
    (hrecognise : ∀ s a, recognise s = some a → a.Presentable) (trustProxy : Bool)
    (peer : Option IpAddress) (h : Headers) :
    let label := (ofRequest recognise trustProxy peer h).device
    (∀ c ∈ label.toList, Headers.IsReadableChar c) ∧
    (label.length ≤ 64 ∨ ∃ cs a, Device.userAgent? h = some cs ∧
      recognise (String.ofList cs) = some a ∧
        (label = a.name ∨ label = a.name ++ " on " ++ a.system)) ∧
    ((∃ c ∈ label.toList, Text.isBlank c = false) ↔ ¬ Device.Obscured recognise h) := by
  intro label
  have hlabel : Device.Labels recognise h label := Device.labels_ofHeaders recognise h
  exact ⟨hlabel.isReadableChar hrecognise, hlabel.length_le, hlabel.nonblank_iff hrecognise⟩

/-- The names in the table can be shown, and a request by one of its user agents, with another user
agent behind it, is labelled by the name and the system. -/
theorem Origin.device_is_usable_known :
    let h : Headers := [("user-agent", Utf8.encode
      "Mozilla/5.0 (X11; Ubuntu; Linux x86_64; rv:121.0) Gecko/20100101 Firefox/121.0"),
      ("user-agent", Utf8.encode "curl/7.64.1")]
    (∀ s a, Agent.ofText? s = some a → a.Presentable) ∧
      (ofRequest Agent.ofText? false none h).device = "Firefox on Linux" ∧
      ¬ Device.Obscured Agent.ofText? h := by
  intro h
  have hknown : ∀ s a, Agent.ofText? s = some a → a.Presentable := by
    intro s a hfound
    have hall : ∀ entry ∈ Agent.known, entry.2.Presentable := by decide
    obtain ⟨before, after, hsplit, -⟩ := List.lookup_eq_some_iff.mp hfound
    exact hall (s, a) (hsplit ▸ List.mem_append_right before List.mem_cons_self)
  have hdevice : (ofRequest Agent.ofText? false none h).device = "Firefox on Linux" := by
    decide +kernel
  obtain ⟨-, -, hcontent⟩ := device_is_usable Agent.ofText? hknown false none h
  refine ⟨hknown, hdevice, hcontent.mp ?_⟩
  rw [hdevice]
  exact (by decide : Text.Presentable "Firefox on Linux").nonblank

/-- Of a user agent that starts with 64 blanks, these are recorded. -/
theorem Origin.device_is_blank :
    let h : Headers := [("user-agent", List.replicate 64 0x20 ++ [0x7a, 0x7a])]
    ∀ c ∈ (ofRequest Agent.ofText? false none h).device.toList, Text.isBlank c = true := by
  intro h
  have hdevice : (ofRequest Agent.ofText? false none h).device =
      String.ofList (List.replicate 64 ' ') := by
    decide +kernel
  rw [hdevice, String.toList_ofList]
  intro c hc
  rw [List.eq_of_mem_replicate hc]
  decide

end AdminConsole
