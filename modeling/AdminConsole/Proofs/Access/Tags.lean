import AdminConsole.Access.Reader
import AdminConsole.Proofs.Json.Words

/-! # Who reads a tag

A role is read in five places: the check of a tag, the reader of tags, the
reader of JSON texts, the grants of a text, and the choice of the role for a
session.  The reader of JSON texts does not use the table of tags: it makes its
own spellings of the names.

The spellings are the tags (`Role.jsonName_eq_tag`), so every place comes down
to one search (`Role.ofTag?`), which finds the role whose tag the text is
(`Role.ofTag?_eq_some_iff`).  Therefore all of them agree about every text
(`tags_read_alike`), and so do the two readers of permissions.
-/
namespace AdminConsole

/-! ## Readers that search -/

/-- What a search finds is taken, and a fault stands for nothing found. -/
theorem elim_eq_ok_iff {ε α : Type} {found : Option α} {e : ε} {a : α} :
    found.elim (.error e) .ok = (.ok a : Except ε α) ↔ found = some a := by
  cases found with
  | none => exact iff_of_false (fun h => by cases h) fun h => by cases h
  | some b => rw [Option.elim_some, Except.ok.injEq, Option.some.injEq]

namespace Json

/-- The text is a JSON string that denotes `s`, however its characters are written. -/
def Quotes (text s : String) : Prop := Token.ofText text = [.str (some s)]

theorem quotes_render (s : String) : Quotes (str s).render s := by
  unfold Quotes render
  exact Token.ofText_eq (Token.Spells.string s)

/-- A JSON string is taken for what is found by its text. -/
theorem document_tag {α : Type} {decode : String → Option α} {text s : String}
    (h : Quotes text s) :
    Reader.document (Reader.tag decode) (Token.ofText text) =
      (decode s).elim (.error .mismatch) .ok := by
  rw [h]
  cases hdecode : decode s with
  | none =>
    have hread : Reader.tag decode [.str (some s)] = .error .mismatch := by
      rw [Reader.tag, hdecode]
    rw [Reader.document, hread, Option.elim_none]
  | some a =>
    have hread : Reader.tag decode [.str (some s)] = .ok (a, []) := by
      rw [Reader.tag, hdecode]
    rw [Reader.document, hread, Option.elim_some]

end Json

/-! ## Roles -/

namespace Role

variable {s text : String} {r : Role}

theorem tag_injective : Function.Injective tag := tag_injective_of_find? ofTag?_tag

theorem ofTag?_eq_none_iff : ofTag? s = none ↔ ∀ r : Role, s ≠ r.tag := by
  rw [Option.eq_none_iff_forall_ne_some]
  exact forall_congr' fun r => not_congr ofTag?_eq_some_iff

/-- The names, in capitals and with underscores, are the tags. -/
theorem jsonName_eq_tag (r : Role) : r.jsonName = r.tag := by
  cases r <;> rfl

theorem ofJsonName?_eq (s : String) : ofJsonName? s = ofTag? s := by
  unfold ofJsonName? ofTag?
  simp only [jsonName_eq_tag]

theorem ofJsonName?_tag (r : Role) : ofJsonName? r.tag = some r := by
  rw [ofJsonName?_eq, ofTag?_tag]

theorem isTag_eq (s : String) : isTag s = (ofTag? s).isSome := by
  rw [Bool.eq_iff_iff, isTag, List.any_eq_true]
  exact List.find?_isSome.symm

theorem parse_eq (s : String) : parse s = (ofTag? s).elim (.error (.role s)) .ok := by
  unfold parse
  cases ofTag? s <;> rfl

theorem ofJson_eq (h : Json.Quotes text s) :
    ofJson text = (ofTag? s).elim (.error .mismatch) .ok := by
  rw [← ofJsonName?_eq]
  exact Json.document_tag h

theorem grantsOfTag_eq (s : String) : grantsOfTag s = (ofTag? s).elim [] grants := by
  unfold grantsOfTag
  cases ofTag? s <;> rfl

theorem parse_eq_ok_iff : parse s = .ok r ↔ s = r.tag := by
  rw [parse_eq, elim_eq_ok_iff, ofTag?_eq_some_iff]

theorem ofJson_eq_ok_iff (h : Json.Quotes text s) : ofJson text = .ok r ↔ s = r.tag := by
  rw [ofJson_eq h, elim_eq_ok_iff, ofTag?_eq_some_iff]

/-- Every role may do something. -/
theorem grants_ne_nil (r : Role) : r.grants ≠ [] := by
  cases r <;> decide

theorem grantsOfTag_ne_nil_iff : grantsOfTag s ≠ [] ↔ ∃ r : Role, s = r.tag := by
  rw [grantsOfTag_eq]
  cases hfound : ofTag? s with
  | none => exact iff_of_false (fun h => h rfl) fun ⟨r, hr⟩ => ofTag?_eq_none_iff.mp hfound r hr
  | some r => exact iff_of_true r.grants_ne_nil ⟨r, ofTag?_eq_some_iff.mp hfound⟩

/-- The readers of roles agree about a text: all of them take it if it is the tag of a role, and
then for this role, and none of them takes it if it is the tag of no role. -/
structure ReadAlike (s : String) : Prop where
  isTag_iff : isTag s = true ↔ ∃ r : Role, s = r.tag
  parse_iff : (∃ r, parse s = .ok r) ↔ ∃ r : Role, s = r.tag
  json_iff : ∀ text, Json.Quotes text s → ((∃ r, ofJson text = .ok r) ↔ ∃ r : Role, s = r.tag)
  grants_iff : grantsOfTag s ≠ [] ↔ ∃ r : Role, s = r.tag
  /-- The tag of a role is read as this role. -/
  known : ∀ r : Role, s = r.tag →
    parse s = .ok r ∧ (∀ text, Json.Quotes text s → ofJson text = .ok r) ∧
      (∀ fallback, resolve (some s) fallback = r) ∧ grantsOfTag s = r.grants
  /-- Any other text is a fault where a role must be named; elsewhere it leaves the fallback, and
  grants nothing. -/
  unknown : (∀ r : Role, s ≠ r.tag) →
    parse s = .error (.role s) ∧ (∀ text, Json.Quotes text s → ofJson text = .error .mismatch) ∧
      (∀ fallback, resolve (some s) fallback = fallback) ∧ grantsOfTag s = []

theorem readAlike (s : String) : ReadAlike s where
  isTag_iff := by
    rw [isTag_eq, Option.isSome_iff_exists]
    exact exists_congr fun r => ofTag?_eq_some_iff
  parse_iff := exists_congr fun r => parse_eq_ok_iff
  json_iff text h := exists_congr fun r => ofJson_eq_ok_iff h
  grants_iff := grantsOfTag_ne_nil_iff
  known r hs := by
    have hfound : ofTag? s = some r := ofTag?_eq_some_iff.mpr hs
    refine ⟨parse_eq_ok_iff.mpr hs, fun text h => (ofJson_eq_ok_iff h).mpr hs,
      fun fallback => ?_, ?_⟩
    · show (ofTag? s).getD fallback = r
      rw [hfound, Option.getD_some]
    · rw [grantsOfTag_eq, hfound, Option.elim_some]
  unknown hs := by
    have hfound : ofTag? s = none := ofTag?_eq_none_iff.mpr hs
    refine ⟨?_, fun text h => ?_, fun fallback => ?_, ?_⟩
    · rw [parse_eq, hfound, Option.elim_none]
    · rw [ofJson_eq h, hfound, Option.elim_none]
    · show (ofTag? s).getD fallback = fallback
      rw [hfound, Option.getD_none]
    · rw [grantsOfTag_eq, hfound, Option.elim_none]

end Role

/-! ## Permissions -/

namespace Permission

variable {s text : String} {p : Permission}

theorem ofTag?_tag (p : Permission) : ofTag? p.tag = some p := by
  cases p <;> decide

theorem ofTag?_eq_some_iff : ofTag? s = some p ↔ s = p.tag := find?_tag_eq_some_iff ofTag?_tag

theorem tag_injective : Function.Injective tag := tag_injective_of_find? ofTag?_tag

/-- The names, in small letters and with underscores, are the tags. -/
theorem jsonName_eq_tag (p : Permission) : p.jsonName = p.tag := by
  cases p <;> rfl

theorem ofJsonName?_eq (s : String) : ofJsonName? s = ofTag? s := by
  unfold ofJsonName? ofTag?
  simp only [jsonName_eq_tag]

theorem parse_eq (s : String) : parse s = (ofTag? s).elim (.error (.permission s)) .ok := by
  unfold parse
  cases ofTag? s <;> rfl

theorem ofJson_eq (h : Json.Quotes text s) :
    ofJson text = (ofTag? s).elim (.error .mismatch) .ok := by
  rw [← ofJsonName?_eq]
  exact Json.document_tag h

theorem parse_eq_ok_iff : parse s = .ok p ↔ s = p.tag := by
  rw [parse_eq, elim_eq_ok_iff, ofTag?_eq_some_iff]

theorem ofJson_eq_ok_iff (h : Json.Quotes text s) : ofJson text = .ok p ↔ s = p.tag := by
  rw [ofJson_eq h, elim_eq_ok_iff, ofTag?_eq_some_iff]

end Permission

/-- **Every text is read alike wherever a role is read.**  It is a role in all places if it is the
tag of one, and in none otherwise; and it is a permission for the reader of tags and for the reader
of JSON texts if it is the tag of one.  No two roles and no two permissions have the same tag. -/
theorem tags_read_alike (s : String) :
    Json.Quotes (Json.str s).render s ∧ Role.ReadAlike s ∧
      (∀ p, Permission.parse s = .ok p ↔ s = p.tag) ∧
      (∀ text, Json.Quotes text s → ∀ p, Permission.ofJson text = .ok p ↔ s = p.tag) ∧
      Function.Injective Role.tag ∧ Function.Injective Permission.tag :=
  ⟨Json.quotes_render s, Role.readAlike s, fun _ => Permission.parse_eq_ok_iff,
    fun _ h _ => Permission.ofJson_eq_ok_iff h, Role.tag_injective, Permission.tag_injective⟩

end AdminConsole
