import AdminConsole.Proofs.Text.Identifier
import AdminConsole.Proofs.Text.Plain
import AdminConsole.Proofs.Text.Trim
import AdminConsole.Session.Credential

/-! # Credentials read back

Which session a request names is said here of its header fields alone.  It
**bears** an identifier if the first authorization field is readable and has,
behind the bearer scheme and with blanks around it, a text of the identifier;
and it **sends** a cookie if the last piece of its cookie fields that has the
cookie's name has its value.  A bearer token counts before any cookie, and
whatever is no bearer token hides no cookie (`Credential.token?_eq_some_iff`).

What the answers of the console set is **plain**: written as it is, with blanks
wherever a client may put them, it is read back (`Cookies.ofPiece?_spelled`,
`Credential.bears_of_field`).
-/
namespace AdminConsole

/-! ## Plain text -/

/-- ASCII characters that are no blanks and mean nothing to a reader of cookies. -/
def IsPlain (s : String) : Prop :=
  ∀ c ∈ s.toList, c.toNat < 128 ∧ Text.isBlank c = false ∧ c ≠ '%' ∧ c ≠ '='

instance (s : String) : Decidable (IsPlain s) := List.decidableBAll _ _

theorem isPlain_text (u : Uuid) : IsPlain u.text := u.forall_mem_text (by decide) (by decide)

theorem isPlain_tag (role : Role) : IsPlain role.tag := by
  cases role <;> decide

/-- Plain text with blanks around it is decoded to itself. -/
theorem Cookies.decoded?_plain {s : String} (hs : IsPlain s) {before after : List Char}
    (hbefore : ∀ c ∈ before, Text.isBlank c = true) (hafter : ∀ c ∈ after, Text.isBlank c = true) :
    decoded? (before ++ s.toList ++ after) = some s := by
  rw [decoded?, Text.trimChars_between hbefore (fun c hc => (hs c hc).2.1) hafter,
    Percent.decode?_plain (fun c hc => (hs c hc).1) fun h => (hs _ h).2.2.1 rfl,
    String.ofList_toList]

namespace Cookies

variable {h : Headers} {name value : String} {piece : List Char}

/-! ## The cookies of a request -/

/-- What stands between the semicolons of the cookie fields that can be read, in order. -/
def fieldPieces (h : Headers) : List (List Char) :=
  ((h.all "cookie").filterMap Headers.text?).flatMap fun s => Text.pieces ';' s.toList

/-- The request has a cookie of the name, and the last one has the value. -/
def Sends (h : Headers) (name value : String) : Prop :=
  ∃ before piece after, fieldPieces h = before ++ piece :: after ∧
    ofPiece? piece = some (name, value) ∧
      ∀ later ∈ after, ∀ other, ofPiece? later ≠ some (name, other)

theorem ofHeaders_eq (h : Headers) : ofHeaders h = (fieldPieces h).filterMap ofPiece? := by
  rw [ofHeaders, fieldPieces, List.filterMap_flatMap]

/-- **The cookie of a name is the last one that the request sends.** -/
theorem value?_eq_some_iff : (ofHeaders h).value? name = some value ↔ Sends h name value := by
  rw [ofHeaders_eq, value?, Option.map_eq_some_iff]
  constructor
  · rintro ⟨⟨found, held⟩, hfind, rfl⟩
    obtain ⟨hname, later, earlier, hsplit, hlater⟩ := List.find?_eq_some_iff_append.mp hfind
    obtain rfl : found = name := beq_iff_eq.mp hname
    -- The cookies in order are those before the one found, that one, and the later ones.
    have hcookies : (fieldPieces h).filterMap ofPiece? =
        earlier.reverse ++ (found, held) :: later.reverse := by
      rw [← List.reverse_reverse ((fieldPieces h).filterMap ofPiece?), hsplit]
      simp
    obtain ⟨front, back, hpieces, -, hback⟩ := List.filterMap_eq_append_iff.mp hcookies
    obtain ⟨skipped, piece, after, rfl, -, hpiece, hafter⟩ :=
      List.filterMap_eq_cons_iff.mp hback
    refine ⟨front ++ skipped, piece, after, ?_, hpiece, fun p hp other hread => ?_⟩
    · rw [hpieces, List.append_assoc]
    · have hmem : (found, other) ∈ after.filterMap ofPiece? :=
        List.mem_filterMap.mpr ⟨p, hp, hread⟩
      rw [hafter, List.mem_reverse] at hmem
      simpa using hlater _ hmem
  · rintro ⟨before, piece, after, hpieces, hpiece, hafter⟩
    refine ⟨(name, value), List.find?_eq_some_iff_append.mpr ⟨beq_iff_eq.mpr rfl,
      (after.filterMap ofPiece?).reverse, (before.filterMap ofPiece?).reverse, ?_, ?_⟩, rfl⟩
    · rw [hpieces, List.filterMap_append, List.filterMap_cons_some hpiece]
      simp
    · rintro ⟨found, other⟩ hmem
      obtain ⟨p, hp, hread⟩ := List.mem_filterMap.mp (List.mem_reverse.mp hmem)
      have hother : found ≠ name := fun heq => hafter p hp other (heq ▸ hread)
      simpa using hother

/-- The cookie with blanks around its name and around its value. -/
def Spells (piece : List Char) (name value : String) : Prop :=
  ∃ b₁ b₂ b₃ b₄ : List Char, (∀ c ∈ b₁ ++ b₂ ++ b₃ ++ b₄, Text.isBlank c = true) ∧
    piece = b₁ ++ name.toList ++ b₂ ++ '=' :: (b₃ ++ value.toList ++ b₄)

/-- **A cookie of plain text is read as it is written.** -/
theorem ofPiece?_spelled (hname : IsPlain name) (hvalue : IsPlain value) (hne : name ≠ "")
    (hpiece : Spells piece name value) : ofPiece? piece = some (name, value) := by
  obtain ⟨b₁, b₂, b₃, b₄, hblank, rfl⟩ := hpiece
  simp only [List.forall_mem_append] at hblank
  obtain ⟨⟨⟨h₁, h₂⟩, h₃⟩, h₄⟩ := hblank
  have hblank : ∀ b : List Char, (∀ c ∈ b, Text.isBlank c = true) → '=' ∉ b := by
    intro b hb hmem
    exact absurd (hb _ hmem) (by decide)
  have hequals : '=' ∉ b₁ ++ name.toList ++ b₂ := by
    simp only [List.mem_append, not_or]
    exact ⟨⟨hblank b₁ h₁, fun h => (hname _ h).2.2.2 rfl⟩, hblank b₂ h₂⟩
  have htrim : Text.trimChars (b₁ ++ name.toList ++ b₂) = name.toList :=
    Text.trimChars_between h₁ (fun c hc => (hname c hc).2.1) h₂
  have hsome : name.toList.isEmpty = false := by
    rw [List.isEmpty_eq_false_iff]
    exact fun hnil => hne (String.toList_eq_nil_iff.mp hnil)
  unfold ofPiece?
  rw [Text.cut_append hequals]
  show (if (Text.trimChars (b₁ ++ name.toList ++ b₂)).isEmpty then none else _) = _
  rw [htrim, hsome, decoded?_plain hname h₁ h₂, decoded?_plain hvalue h₃ h₄]
  rfl

end Cookies

namespace Credential

variable {h : Headers} {u : Uuid}

/-! ## The token of a request -/

/-- The first authorization field has, behind the bearer scheme and any blanks, a text of the
identifier. -/
def Bears (h : Headers) (u : Uuid) : Prop :=
  ∃ value rest, h.readable? "authorization" = some value ∧
    value.toList = bearerScheme ++ rest ∧
      Uuid.parse? (String.ofList (Text.trimChars rest)) = some u

theorem bearer?_eq_some_iff : bearer? h = some u ↔ Bears h u := by
  unfold bearer? Bears
  cases h.readable? "authorization" with
  | none => exact iff_of_false (fun h => by cases h) fun ⟨_, _, h, _⟩ => by cases h
  | some value =>
    show (if bearerScheme.isPrefixOf value.toList then _ else none) = some u ↔ _
    by_cases hscheme : bearerScheme.isPrefixOf value.toList = true
    · obtain ⟨rest, hrest⟩ := List.isPrefixOf_iff_prefix.mp hscheme
      rw [if_pos hscheme, ← hrest, List.drop_left]
      constructor
      · exact fun hparse => ⟨value, rest, rfl, hrest.symm, hparse⟩
      · rintro ⟨_, rest', ⟨⟩, hvalue, hparse⟩
        rw [← hrest] at hvalue
        rwa [List.append_cancel_left hvalue]
    · rw [if_neg hscheme]
      refine iff_of_false (fun h => by cases h) ?_
      rintro ⟨_, rest, ⟨⟩, hvalue, -⟩
      exact hscheme (List.isPrefixOf_iff_prefix.mpr ⟨rest, hvalue.symm⟩)

theorem cookie?_eq_some_iff : cookie? h = some u ↔
    ∃ value, Cookies.Sends h sessionCookie value ∧ Uuid.parse? value = some u := by
  rw [cookie?, Option.bind_eq_some_iff]
  simp only [Cookies.value?_eq_some_iff]

/-- **The token is the one borne, and where none is borne, that of the cookie.** -/
theorem token?_eq_some_iff : token? h = some u ↔ Bears h u ∨
    (∀ v, ¬ Bears h v) ∧ ∃ value, Cookies.Sends h sessionCookie value ∧
      Uuid.parse? value = some u := by
  simp only [← bearer?_eq_some_iff, ← cookie?_eq_some_iff]
  unfold token?
  cases bearer? h with
  | none => simp
  | some v => simp

/-- An identifier that stands behind the scheme in the first authorization field, with spaces or
tabs around it, is borne. -/
theorem bears_of_field {lead trail : String}
    (hblank : ∀ c ∈ lead.toList ++ trail.toList, c = ' ' ∨ c = '\t')
    (hfield : h.first? "authorization" =
      some (Utf8.encode ("Bearer " ++ lead ++ u.text ++ trail))) : Bears h u := by
  have hvalue : ("Bearer " ++ lead ++ u.text ++ trail).toList =
      bearerScheme ++ (lead.toList ++ u.text.toList ++ trail.toList) := by
    simp only [String.toList_append, List.append_assoc]
    rfl
  have hspace : ∀ c, c = ' ' ∨ c = '\t' → Headers.IsReadableChar c ∧ Text.isBlank c = true := by
    rintro c (rfl | rfl) <;> decide
  obtain ⟨hlead, htrail⟩ := List.forall_mem_append.mp fun c hc => hspace c (hblank c hc)
  have hscheme : bearerScheme.all (fun c => decide (Headers.IsReadableChar c)) = true := by decide
  have hreadable : ∀ c ∈ ("Bearer " ++ lead ++ u.text ++ trail).toList,
      Headers.IsReadableChar c := by
    simp only [hvalue, List.forall_mem_append]
    refine ⟨fun c hc => of_decide_eq_true (List.all_eq_true.mp hscheme c hc),
      ⟨fun c hc => (hlead c hc).1, ?_⟩, fun c hc => (htrail c hc).1⟩
    exact u.forall_mem_text (by decide) (by decide)
  have htrim : Text.trimChars (lead.toList ++ u.text.toList ++ trail.toList) = u.text.toList :=
    Text.trimChars_between (fun c hc => (hlead c hc).2) (fun c hc => (isPlain_text u c hc).2.1)
      fun c hc => (htrail c hc).2
  refine ⟨_, _, ?_, hvalue, ?_⟩
  · rw [Headers.readable?, hfield, Option.bind_some, Headers.text?_encode hreadable]
  · rw [htrim, String.ofList_toList, Uuid.parse?_text]

end Credential

end AdminConsole
