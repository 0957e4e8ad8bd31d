import AdminConsole.Http.Headers
import AdminConsole.Text.Percent

/-! # Plain text

An ASCII character is one byte, and that byte is its number.  So ASCII text is
read back from its bytes (`Utf8.decode?_ascii`), also by way of percent decoding
if there is no percent sign in it (`Percent.decode?_plain`), and a header field
that holds readable characters holds readable text (`Headers.text?_encode`), and
no other (`Headers.isReadableChar_of_readable?`).
-/
namespace AdminConsole

namespace Utf8

variable {cs : List Char}

/-! ## Bytes -/

theorem toList_loop (bytes : ByteArray) (i : Nat) (read : List UInt8) :
    ByteArray.toList.loop bytes i read = read.reverse ++ bytes.data.toList.drop i := by
  fun_induction ByteArray.toList.loop bytes i read with
  | case1 i read h ih =>
    have hi : i < bytes.data.toList.length := by simpa using h
    rw [ih, List.drop_eq_getElem_cons hi]
    simp [ByteArray.get!, h]
  | case2 i read h =>
    rw [List.drop_eq_nil_of_le (by simpa using Nat.le_of_not_lt h), List.append_nil]

theorem toList_toByteArray (bytes : List UInt8) : bytes.toByteArray.toList = bytes := by
  rw [ByteArray.toList, toList_loop, List.data_toByteArray]
  rfl

/-- The text consists of ASCII characters. -/
def IsAscii (cs : List Char) : Prop := ∀ c ∈ cs, c.toNat < 128

theorem toNat_toUInt8 {c : Char} (h : c.toNat < 128) : c.toUInt8.toNat = c.toNat :=
  Nat.mod_eq_of_lt (Nat.lt_trans h (by decide))

theorem toUInt8_lt {c : Char} (h : c.toNat < 128) : c.toUInt8 < 0x80 := by
  rw [UInt8.lt_iff_toNat_lt, toNat_toUInt8 h]
  exact h

theorem ofNat_toUInt8 {c : Char} (h : c.toNat < 128) : Char.ofNat c.toUInt8.toNat = c := by
  rw [toNat_toUInt8 h, Char.ofNat_toNat]

theorem encodeChar_of_ascii {c : Char} (h : c.toNat < 128) :
    String.utf8EncodeChar c = [c.toUInt8] := by
  refine String.utf8EncodeChar_eq_singleton ?_
  rw [Char.utf8Size_eq_one_iff, UInt32.le_iff_toNat_le]
  exact Nat.le_of_lt_succ h

/-! ## ASCII text -/

theorem encode_ascii (h : IsAscii cs) : encode (String.ofList cs) = cs.map Char.toUInt8 := by
  have hflat : cs.flatMap String.utf8EncodeChar = cs.map Char.toUInt8 := by
    induction cs with
    | nil => rfl
    | cons c rest ih =>
      have hrest : IsAscii rest := fun d hd => h d (List.mem_cons_of_mem c hd)
      rw [List.flatMap_cons, encodeChar_of_ascii (h c List.mem_cons_self), ih hrest]
      rfl
  rw [encode, String.toUTF8_eq_toByteArray, String.toByteArray_ofList, List.utf8Encode, hflat,
    toList_toByteArray]

/-- Every byte of ASCII text is a character. -/
theorem units_ascii (h : IsAscii cs) : units (cs.map Char.toUInt8) = cs.map some := by
  unfold units
  induction cs with
  | nil => rfl
  | cons c rest ih =>
    have hc : c.toNat < 128 := h c List.mem_cons_self
    have hfirst : first? c.toUInt8 (rest.map Char.toUInt8) = some (c, 0) := by
      unfold first?
      rw [if_pos (toUInt8_lt hc), ofNat_toUInt8 hc]
    rw [List.map_cons, unitsAfter, hfirst]
    dsimp only
    rw [ih fun d hd => h d (List.mem_cons_of_mem c hd)]
    rfl

theorem decode?_ascii (h : IsAscii cs) :
    decode? (cs.map Char.toUInt8) = some (String.ofList cs) := by
  have hall : (cs.map some).mapM id = some cs := by
    have hpure : cs.mapM (fun c => (pure (id c) : Option Char)) = pure (cs.map id) :=
      List.mapM_pure
    rw [List.map_id] at hpure
    rw [List.mapM_map]
    exact hpure
  rw [decode?, units_ascii h, hall, Option.map_some]

end Utf8

namespace Percent

/-- Bytes without a percent sign stand for themselves. -/
theorem decodeBytes_of_not_mem {bytes : List UInt8} (h : 0x25 ∉ bytes) :
    decodeBytes bytes = bytes := by
  unfold decodeBytes
  induction bytes with
  | nil => rfl
  | cons b rest ih =>
    rw [List.mem_cons, not_or] at h
    have hb : ¬ (b == 0x25) = true := fun he => h.1 (beq_iff_eq.mp he).symm
    rw [decodeAfter, if_neg hb, ih h.2]

theorem decode?_plain {cs : List Char} (h : Utf8.IsAscii cs) (hpercent : '%' ∉ cs) :
    decode? (String.ofList cs) = some (String.ofList cs) := by
  have hnone : 0x25 ∉ cs.map Char.toUInt8 := by
    intro hmem
    obtain ⟨c, hc, hbyte⟩ := List.mem_map.mp hmem
    have hchar : c = '%' := by
      rw [← Utf8.ofNat_toUInt8 (h c hc), hbyte]
      rfl
    exact hpercent (hchar ▸ hc)
  rw [decode?, Utf8.encode_ascii h, decodeBytes_of_not_mem hnone, Utf8.decode?_ascii h]

end Percent

namespace Headers

/-- A character that a readable value may hold. -/
def IsReadableChar (c : Char) : Prop := c = '\t' ∨ (0x20 ≤ c.toNat ∧ c.toNat ≤ 0x7e)

instance : DecidablePred IsReadableChar :=
  fun c => inferInstanceAs (Decidable (c = '\t' ∨ (0x20 ≤ c.toNat ∧ c.toNat ≤ 0x7e)))

theorem IsReadableChar.lt {c : Char} (h : IsReadableChar c) : c.toNat < 128 := by
  rcases h with rfl | h
  · decide
  · omega

/-- Readable text is read back from the bytes of a field. -/
theorem text?_encode {s : String} (h : ∀ c ∈ s.toList, IsReadableChar c) :
    text? (Utf8.encode s) = some s := by
  have hascii : Utf8.IsAscii s.toList := fun c hc => (h c hc).lt
  have hencode : Utf8.encode s = s.toList.map Char.toUInt8 := by
    rw [← Utf8.encode_ascii hascii, String.ofList_toList]
  have hall : (s.toList.map Char.toUInt8).all isReadable = true := by
    rw [List.all_map, List.all_eq_true]
    intro c hc
    show (c.toUInt8 == 9 || (0x20 ≤ c.toUInt8 && c.toUInt8 ≤ 0x7e)) = true
    rcases h c hc with rfl | hprintable
    · rfl
    · have hbyte := Utf8.toNat_toUInt8 (hascii c hc)
      simp only [Bool.or_eq_true, Bool.and_eq_true, decide_eq_true_eq, UInt8.le_iff_toNat_le, hbyte]
      exact Or.inr hprintable
  have hback : (s.toList.map Char.toUInt8).map (fun b => Char.ofNat b.toNat) = s.toList := by
    have hsame : (s.toList.map fun c => Char.ofNat c.toUInt8.toNat) = s.toList.map id :=
      List.map_congr_left fun c hc => Utf8.ofNat_toUInt8 (hascii c hc)
    rw [List.map_map]
    exact hsame.trans s.toList.map_id
  rw [hencode, text?, if_pos hall, hback, String.ofList_toList]

theorem isReadableChar_ofNat {b : UInt8} (h : isReadable b = true) :
    IsReadableChar (Char.ofNat b.toNat) := by
  unfold isReadable at h
  rw [Bool.or_eq_true, beq_iff_eq, Bool.and_eq_true, decide_eq_true_eq, decide_eq_true_eq] at h
  rcases h with rfl | ⟨hfrom, hto⟩
  · exact Or.inl rfl
  · have hfrom : 0x20 ≤ b.toNat := UInt8.le_iff_toNat_le.mp hfrom
    have hto : b.toNat ≤ 0x7e := UInt8.le_iff_toNat_le.mp hto
    have hvalid : b.toNat.isValidChar := Or.inl (by omega)
    have hchar : (Char.ofNat b.toNat).toNat = b.toNat := by
      rw [Char.ofNat, dif_pos hvalid]
      rfl
    refine Or.inr ?_
    rw [hchar]
    exact ⟨hfrom, hto⟩

/-- What can be read of a field consists of readable characters. -/
theorem isReadableChar_of_readable? {h : Headers} {name s : String}
    (hs : h.readable? name = some s) : ∀ c ∈ s.toList, IsReadableChar c := by
  obtain ⟨value, -, htext⟩ := Option.bind_eq_some_iff.mp hs
  unfold text? at htext
  split at htext
  · next hall =>
    cases htext
    rw [String.toList_ofList]
    exact List.forall_mem_map.mpr fun b hb => isReadableChar_ofNat (List.all_eq_true.mp hall b hb)
  · cases htext

end Headers

end AdminConsole
