import AdminConsole.Access.Role
import AdminConsole.Proofs.Text.Hex
import AdminConsole.Text.Split
import AdminConsole.Uuid

/-! # Identifiers as text

An identifier and a role are read back from what is written for them, also when
they are written together with a colon between: no colon stands in the text of
an identifier.  A text that is the tag of one role is the tag of no other.
-/
namespace AdminConsole

namespace Text

/-- A text is cut where its first part ends, if the separator is not in that part. -/
theorem cut_append {α : Type} [BEq α] [LawfulBEq α] {separator : α} {before : List α}
    (h : separator ∉ before) (after : List α) :
    cut separator (before ++ separator :: after) = some (before, after) := by
  induction before with
  | nil => simp [cut]
  | cons c rest ih =>
    have hc : ¬ (c == separator) = true := by
      rw [beq_iff_eq]
      rintro rfl
      exact h List.mem_cons_self
    rw [List.cons_append, cut, if_neg hc, ih fun hs => h (List.mem_cons_of_mem c hs)]
    rfl

end Text

namespace Uuid

theorem length_digits (u : Uuid) : u.digits.length = 32 := Hex.length_fixed 32 _

theorem ofDigits?_digits (u : Uuid) : ofDigits? u.digits = some u := by
  have hlt : u.bits.toNat < Nat.pow 16 32 := u.bits.isLt
  rw [ofDigits?, if_pos u.length_digits, digits, Hex.number?_fixed, Nat.mod_eq_of_lt hlt]
  show some (Uuid.mk (BitVec.ofNat 128 u.bits.toNat)) = some u
  rw [BitVec.ofNat_toNat, BitVec.setWidth_eq]

theorem length_hyphenate {ds : List Char} (h : ds.length = 32) : (hyphenate ds).length = 36 := by
  simp [hyphenate, h]

/-- The groups of a hyphenated text, joined again. -/
theorem join_hyphenate {ds : List Char} (h : ds.length = 32) :
    (hyphenate ds).take 8 ++ ((hyphenate ds).drop 9).take 4 ++ ((hyphenate ds).drop 14).take 4 ++
      ((hyphenate ds).drop 19).take 4 ++ (hyphenate ds).drop 24 = ds := by
  have hgroup : ∀ k, (ds.drop k).take 4 ++ ds.drop (k + 4) = ds.drop k := by
    intro k
    rw [← List.drop_drop, List.take_append_drop]
  have h₁ : (hyphenate ds).take 8 = ds.take 8 := by
    simp [hyphenate, h]
  have h₂ : ((hyphenate ds).drop 9).take 4 = (ds.drop 8).take 4 := by
    simp [hyphenate, List.drop_append, List.drop_take, h]
  have h₃ : ((hyphenate ds).drop 14).take 4 = (ds.drop 12).take 4 := by
    simp [hyphenate, List.drop_append, List.drop_take, h]
  have h₄ : ((hyphenate ds).drop 19).take 4 = (ds.drop 16).take 4 := by
    simp [hyphenate, List.drop_append, List.drop_take, h]
  have h₅ : (hyphenate ds).drop 24 = ds.drop 20 := by
    simp [hyphenate, List.drop_append, List.drop_take, h]
  rw [h₁, h₂, h₃, h₄, h₅, List.append_assoc, List.append_assoc, List.append_assoc, hgroup 16,
    hgroup 12, hgroup 8, List.take_append_drop]

theorem ofHyphenated?_hyphenate {ds : List Char} (h : ds.length = 32) :
    ofHyphenated? (hyphenate ds) = ofDigits? ds := by
  unfold ofHyphenated?
  simp only [join_hyphenate h, length_hyphenate h, and_self, ↓reduceIte]

/-- **An identifier is read back from its text.** -/
theorem parse?_text (u : Uuid) : parse? u.text = some u := by
  have hlist : u.text.toList = hyphenate u.digits := String.toList_ofList
  have hlength : u.text.toList.length = 36 := by
    rw [hlist, length_hyphenate u.length_digits]
  unfold parse?
  dsimp only
  rw [hlength, if_neg (by decide), if_pos rfl, hlist, ofHyphenated?_hyphenate u.length_digits,
    u.ofDigits?_digits]

/-- Only digits and hyphens stand in the text of an identifier. -/
theorem mem_text {u : Uuid} {c : Char} (h : c ∈ u.text.toList) :
    c = '-' ∨ ∃ n < 16, c = Hex.digit n := by
  have hlist : u.text.toList = hyphenate u.digits := String.toList_ofList
  have hdigit : ∀ c ∈ u.digits, ∃ n < 16, c = Hex.digit n := fun c hc => Hex.mem_fixed hc
  have hdrop : ∀ k, ∀ c ∈ (u.digits.drop k).take 4, c ∈ u.digits :=
    fun k c hc => List.mem_of_mem_drop (List.mem_of_mem_take hc)
  rw [hlist, hyphenate] at h
  simp only [List.mem_append, List.mem_cons] at h
  rcases h with (((h | h | h) | h | h) | h | h) | h | h
  · exact Or.inr (hdigit c (List.mem_of_mem_take h))
  · exact Or.inl h
  · exact Or.inr (hdigit c (hdrop 8 c h))
  · exact Or.inl h
  · exact Or.inr (hdigit c (hdrop 12 c h))
  · exact Or.inl h
  · exact Or.inr (hdigit c (hdrop 16 c h))
  · exact Or.inl h
  · exact Or.inr (hdigit c (List.mem_of_mem_drop h))

/-- What holds of hyphens and of digits holds of every character of an identifier. -/
theorem forall_mem_text {P : Char → Prop} (hhyphen : P '-') (hdigit : ∀ k : Fin 16, P (Hex.digit k))
    (u : Uuid) : ∀ c ∈ u.text.toList, P c := by
  intro c hc
  rcases mem_text hc with rfl | ⟨n, hn, rfl⟩
  · exact hhyphen
  · exact hdigit ⟨n, hn⟩

theorem colon_not_mem_text (u : Uuid) : ':' ∉ u.text.toList := by
  have hall : ∀ c ∈ u.text.toList, c ≠ ':' := u.forall_mem_text (by decide) (by decide)
  exact fun h => hall ':' h rfl

end Uuid

/-! ## Tags -/

section Tag

variable {α : Type} {all : List α} {tag : α → String}

/-- If each thing is found by its tag, a text finds the thing whose tag it is and no other. -/
theorem find?_tag_eq_some_iff (h : ∀ a, all.find? (tag · == tag a) = some a) {s : String} {a : α} :
    all.find? (tag · == s) = some a ↔ s = tag a := by
  constructor
  · intro hfound
    have htag := List.find?_some hfound
    exact (beq_iff_eq.mp htag).symm
  · rintro rfl
    exact h a

/-- No two things that are found by their tags have the same tag. -/
theorem tag_injective_of_find? (h : ∀ a, all.find? (tag · == tag a) = some a) :
    Function.Injective tag := by
  intro a b hab
  have hfound : all.find? (tag · == tag a) = some b := (find?_tag_eq_some_iff h).mpr hab
  exact Option.some.inj ((h a).symm.trans hfound)

end Tag

theorem Role.ofTag?_tag (role : Role) : Role.ofTag? role.tag = some role := by
  cases role <;> decide

theorem Role.ofTag?_eq_some_iff {s : String} {role : Role} :
    Role.ofTag? s = some role ↔ s = role.tag := find?_tag_eq_some_iff Role.ofTag?_tag

end AdminConsole
