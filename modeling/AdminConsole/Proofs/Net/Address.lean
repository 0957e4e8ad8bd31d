import AdminConsole.Net.Address
import AdminConsole.Proofs.List.Failure
import AdminConsole.Proofs.Text.Hex
import AdminConsole.Proofs.Text.Numeral
import AdminConsole.Proofs.Text.Pieces

/-! # What the text of an address denotes

A byte is written in decimal without leading zeros, a group of sixteen bits in one to four
hexadecimal digits of either case.  An address is four bytes between dots, or eight groups between
colons; a double colon stands for the groups of zero that are missing, and the last two groups may
be four bytes (`IpAddress.Denotes`).

The readers cut a text at its dots and colons.  They find what it denotes and take nothing else
(`IpAddress.parse?_eq_some_iff`), because parts that are joined by colons hold no double colon, so
there is one place to cut (`IpAddress.cutAtDoubleColon_join`).
-/
namespace AdminConsole

namespace IpAddress

variable {cs : List Char}

/-! ## Bytes -/

/-- **A byte has one text, its decimal digits.** -/
theorem byte?_eq_some_iff {b : UInt8} : byte? cs = some b ↔ cs = Nat.toDigits 10 b.toNat := by
  have hb : b.toNat < 256 := b.toNat_lt
  rw [Numeral.eq_toDigits_iff]
  unfold byte?
  split
  · next hrefused =>
    refine iff_of_false (fun h => by cases h) fun ⟨hdigits, hzero⟩ => ?_
    rcases hrefused with hempty | hlong | ⟨hhead, hlong⟩
    · exact hdigits.nonempty (List.isEmpty_iff.mp hempty)
    · have hcs := Numeral.eq_toDigits_iff.mpr ⟨hdigits, hzero⟩
      have hlength := (Nat.length_toDigits_le_iff (b := 10) (k := 3) (by decide) (by decide)).mpr
        (Nat.lt_trans hb (by decide))
      rw [← hcs] at hlength
      omega
    · have hlength := hzero hhead
      omega
  · next hread =>
    simp only [not_or, not_and, Nat.not_lt] at hread
    obtain ⟨hnonempty, -, hzero⟩ := hread
    have hne : cs ≠ [] := fun h => hnonempty (List.isEmpty_iff.mpr h)
    have hzero : cs.head? = some '0' → cs.length = 1 := fun hhead =>
      Nat.le_antisymm (hzero hhead) (List.length_pos_iff.mpr hne)
    have hmagnitude : ∀ n, Numeral.magnitude 255 .tooLarge 0 cs = .ok n ↔
        Numeral.IsDigits cs n ∧ n ≤ 255 := fun n => by
      rw [Numeral.magnitude_eq_unsigned hne, Numeral.unsigned_eq_ok_iff]
    constructor
    · intro h
      split at h
      · next n hn =>
        obtain ⟨hdigits, hle⟩ := (hmagnitude n).mp hn
        obtain rfl : UInt8.ofNat n = b := Option.some.inj h
        rw [UInt8.toNat_ofNat_of_lt' (Nat.lt_succ_of_le hle)]
        exact ⟨hdigits, hzero⟩
      · cases h
    · rintro ⟨hdigits, -⟩
      rw [(hmagnitude b.toNat).mpr ⟨hdigits, Nat.le_of_lt_succ hb⟩]
      exact congrArg some UInt8.ofNat_toNat

/-- The text of bytes is that of each byte, with dots between. -/
theorem toList_bytesText (bytes : List UInt8) : (bytesText bytes).toList =
    ['.'].intercalate (bytes.map fun b => Nat.toDigits 10 b.toNat) := by
  have htext : ∀ b : UInt8, (toString b.toNat).toList = Nat.toDigits 10 b.toNat := fun b => by
    rw [Nat.toString_eq_ofList_toDigits, String.toList_ofList]
  rw [bytesText, String.toList_intercalate, List.map_map]
  exact congrArg _ (List.map_congr_left fun b _ => htext b)

theorem isDigit_of_mem_toDigits {n : Nat} {c : Char} (hc : c ∈ Nat.toDigits 10 n) :
    c.isDigit = true := Nat.isDigit_of_mem_toDigits (by decide) (by decide) hc

/-- **Four bytes have one text.** -/
theorem bytes?_eq_some_iff {bytes : Vector UInt8 4} :
    bytes? cs = some bytes ↔ cs = (bytesText bytes.toList).toList := by
  have hread : bytes? cs = some bytes ↔ (Text.pieces '.' cs).mapM byte? = some bytes.toList := by
    unfold bytes?
    split
    · next a b c d hmap =>
      rw [hmap, Option.some.injEq, Option.some.injEq, ← Vector.toList_inj]
      exact Iff.rfl
    · next hother =>
      refine iff_of_false (fun h => by cases h) fun hmap => ?_
      obtain ⟨a, b, c, d, hlist⟩ := List.length_eq_four.mp bytes.length_toList
      exact hother a b c d (hmap.trans (congrArg some hlist))
  have hdot : ∀ p ∈ bytes.toList.map fun b => Nat.toDigits 10 b.toNat, '.' ∉ p := by
    intro p hp hmem
    obtain ⟨b, -, rfl⟩ := List.mem_map.mp hp
    cases isDigit_of_mem_toDigits hmem
  rw [hread, mapM_eq_some_iff_eq_map fun _ _ => byte?_eq_some_iff, Text.pieces_eq_iff,
    ← toList_bytesText, eq_comm (a := cs)]
  refine ⟨fun h => h.2.2, fun h => ⟨fun hnil => ?_, hdot, h⟩⟩
  have hlength := congrArg List.length hnil
  rw [List.length_map, bytes.length_toList] at hlength
  cases hlength

theorem dot_mem_bytesText (a b : UInt8) (rest : List UInt8) :
    '.' ∈ (bytesText (a :: b :: rest)).toList := by
  rw [toList_bytesText, List.map_cons, List.map_cons, List.intercalate_cons_cons]
  simp

/-- Only digits and dots stand in the text of bytes. -/
theorem mem_bytesText {bytes : List UInt8} {c : Char} (hc : c ∈ (bytesText bytes).toList) :
    c.isDigit = true ∨ c = '.' := by
  rw [toList_bytesText] at hc
  rcases Text.mem_intercalate hc with rfl | ⟨p, hp, hc⟩
  · exact Or.inr rfl
  · obtain ⟨b, -, rfl⟩ := List.mem_map.mp hp
    exact Or.inl (isDigit_of_mem_toDigits hc)

/-! ## Groups -/

/-- The text is that of the group: one to four digits of either case. -/
def IsGroup (cs : List Char) (g : UInt16) : Prop :=
  cs ≠ [] ∧ cs.length ≤ 4 ∧ Hex.number? cs = some g.toNat

theorem group?_eq_some_iff {g : UInt16} : group? cs = some g ↔ IsGroup cs g := by
  unfold group? IsGroup
  split
  · next hrefused =>
    refine iff_of_false (fun h => by cases h) fun ⟨hne, hlength, _⟩ => ?_
    rcases hrefused with hempty | hlong
    · exact hne (List.isEmpty_iff.mp hempty)
    · omega
  · next hread =>
    rw [not_or, Nat.not_lt] at hread
    rw [Option.map_eq_some_iff]
    constructor
    · rintro ⟨n, hn, rfl⟩
      have hlt : n < UInt16.size :=
        Nat.lt_of_lt_of_le (Hex.number?_lt hn).1 (Nat.pow_le_pow_right (by decide) hread.2)
      refine ⟨fun h => hread.1 (List.isEmpty_iff.mpr h), hread.2, ?_⟩
      rw [hn, UInt16.toNat_ofNat_of_lt' hlt]
    · rintro ⟨-, -, hn⟩
      exact ⟨g.toNat, hn, UInt16.ofNat_toNat⟩

/-- Only digits stand in the text of a group. -/
theorem IsGroup.not_mem {g : UInt16} (h : IsGroup cs g) {c : Char} (hc : Hex.value? c = none) :
    c ∉ cs := by
  intro hmem
  have hsome := (Hex.number?_lt h.2.2).2 c hmem
  rw [hc] at hsome
  cases hsome

/-- What parts between colons denote: a group each, but the last may be four bytes, which make two
groups, if `withBytes`. -/
inductive Parts (withBytes : Bool) : List (List Char) → List UInt16 → Prop
  | nil : Parts withBytes [] []
  | bytes {cs : List Char} (hbytes : withBytes = true) (a b c d : UInt8)
      (hcs : cs = (bytesText [a, b, c, d]).toList) :
      Parts withBytes [cs] [groupOfBytes a b, groupOfBytes c d]
  | group {cs : List Char} {g : UInt16} {ps : List (List Char)} {gs : List UInt16}
      (hg : IsGroup cs g) (hgs : Parts withBytes ps gs) : Parts withBytes (cs :: ps) (g :: gs)

variable {withBytes : Bool} {ps : List (List Char)} {gs : List UInt16}

/-- The text of bytes is that of no group. -/
theorem not_isGroup_bytesText (a b : UInt8) (rest : List UInt8) (g : UInt16) :
    ¬ IsGroup (bytesText (a :: b :: rest)).toList g :=
  fun h => h.not_mem (by decide) (dot_mem_bytesText a b rest)

theorem groups?_singleton_eq_some_iff : groups? withBytes [cs] = some gs ↔
    Parts withBytes [cs] gs := by
  have hone : ∀ g, Parts withBytes [cs] [g] ↔ IsGroup cs g := by
    intro g
    constructor
    · intro h
      cases h with
      | group hg _ => exact hg
    · exact fun hg => .group hg .nil
  unfold groups?
  cases hg : group? cs with
  | some g =>
    have hgroup := group?_eq_some_iff.mp hg
    dsimp only
    rw [Option.some.injEq]
    constructor
    · rintro rfl
      exact (hone g).mpr hgroup
    · intro h
      cases h with
      | bytes _ a b c d hcs => exact absurd (hcs ▸ hgroup) (not_isGroup_bytesText a b [c, d] g)
      | group hg' hgs =>
        cases hgs
        rw [group?_eq_some_iff.mpr hg', Option.some.injEq] at hg
        rw [hg]
  | none =>
    have hnone : ∀ g, ¬ IsGroup cs g := fun g h => by
      rw [group?_eq_some_iff.mpr h] at hg
      cases hg
    dsimp only
    cases withBytes with
    | false =>
      refine iff_of_false (fun h => by cases h) fun h => ?_
      cases h with
      | bytes hbytes => cases hbytes
      | group hg' _ => exact hnone _ hg'
    | true =>
      rw [if_pos rfl, Option.map_eq_some_iff]
      constructor
      · rintro ⟨bytes, hbytes, rfl⟩
        obtain ⟨a, b, c, d, hlist⟩ := List.length_eq_four.mp bytes.length_toList
        have hcs := bytes?_eq_some_iff.mp hbytes
        rw [hlist] at hcs
        obtain rfl : bytes = #v[a, b, c, d] := Vector.toList_inj.mp hlist
        exact .bytes rfl a b c d hcs
      · intro h
        cases h with
        | bytes _ a b c d hcs => exact ⟨#v[a, b, c, d], bytes?_eq_some_iff.mpr hcs, rfl⟩
        | group hg' _ => exact absurd hg' (hnone _)

/-- **Parts are read to what they denote.** -/
theorem groups?_eq_some_iff : groups? withBytes ps = some gs ↔ Parts withBytes ps gs := by
  induction ps generalizing gs with
  | nil =>
    show some [] = some gs ↔ Parts withBytes [] gs
    rw [Option.some.injEq]
    constructor
    · rintro rfl
      exact .nil
    · intro h
      cases h
      rfl
  | cons cs ps ih =>
    cases ps with
    | nil => exact groups?_singleton_eq_some_iff
    | cons next more =>
      have hread : groups? withBytes (cs :: next :: more) = (group? cs).bind fun g =>
          (groups? withBytes (next :: more)).bind fun rest => some (g :: rest) := rfl
      rw [hread]
      constructor
      · intro h
        obtain ⟨g, hg, hrest⟩ := Option.bind_eq_some_iff.mp h
        obtain ⟨rest, hmore, hdone⟩ := Option.bind_eq_some_iff.mp hrest
        rw [← Option.some.inj hdone]
        exact .group (group?_eq_some_iff.mp hg) (ih.mp hmore)
      · intro h
        cases h with
        | group hg hgs =>
          rw [group?_eq_some_iff.mpr hg, ih.mpr hgs]
          rfl

/-- A part has something in it, and no colon. -/
theorem Parts.mem (h : Parts withBytes ps gs) : ∀ p ∈ ps, p ≠ [] ∧ ':' ∉ p := by
  induction h with
  | nil => exact fun _ hp => absurd hp List.not_mem_nil
  | bytes _ a b c d hcs =>
    rw [hcs]
    have hdot := dot_mem_bytesText a b [c, d]
    refine List.forall_mem_singleton.mpr ⟨List.ne_nil_of_mem hdot, fun hc => ?_⟩
    rcases mem_bytesText hc with hdigit | hdot
    · cases hdigit
    · cases hdot
  | group hg _ ih => exact List.forall_mem_cons.mpr ⟨⟨hg.1, hg.not_mem (by decide)⟩, ih⟩

theorem Parts.join_eq_nil_iff (h : Parts withBytes ps gs) :
    [':'].intercalate ps = [] ↔ ps = [] := by
  cases ps with
  | nil => exact iff_of_true rfl rfl
  | cons p ps =>
    refine iff_of_false (fun hjoin => ?_) (List.cons_ne_nil p ps)
    obtain ⟨rest, hrest⟩ := Text.exists_intercalate_cons ':' p ps
    rw [hrest] at hjoin
    exact (h.mem p List.mem_cons_self).1 (List.append_eq_nil_iff.mp hjoin).1

/-- **Joined parts are read to what the parts denote.** -/
theorem joined?_eq_some_iff : joined? withBytes cs = some gs ↔
    ∃ ps, Parts withBytes ps gs ∧ [':'].intercalate ps = cs := by
  unfold joined?
  split
  · next hempty =>
    obtain rfl := List.isEmpty_iff.mp hempty
    rw [Option.some.injEq]
    constructor
    · rintro rfl
      exact ⟨[], .nil, rfl⟩
    · rintro ⟨ps, hps, hjoin⟩
      obtain rfl := hps.join_eq_nil_iff.mp hjoin
      cases hps
      rfl
  · next hempty =>
    rw [groups?_eq_some_iff]
    constructor
    · exact fun h => ⟨_, h, (Text.pieces_eq_iff.mp rfl).2.2⟩
    · rintro ⟨ps, hps, rfl⟩
      have hne : ps ≠ [] := fun h => hempty (by rw [h]; rfl)
      rwa [Text.pieces_eq_iff.mpr ⟨hne, fun p hp => (hps.mem p hp).2, rfl⟩]

/-! ## Double colons -/

variable {before after : List Char}

theorem eq_of_cutAtDoubleColon (h : cutAtDoubleColon cs = some (before, after)) :
    cs = before ++ ':' :: ':' :: after := by
  fun_induction cutAtDoubleColon cs generalizing before with
  | case1 => cases h
  | case2 rest =>
    cases h
    rfl
  | case3 c rest _ ih =>
    obtain ⟨⟨front, back⟩, hcut, heq⟩ := Option.map_eq_some_iff.mp h
    cases heq
    rw [ih hcut, List.cons_append]

/-- What a text is cut into, with more before it. -/
def prepend (front : List Char) : List Char × List Char → List Char × List Char :=
  fun (before, after) => (front ++ before, after)

theorem cutAtDoubleColon_append {p : List Char} (hp : ':' ∉ p) (rest : List Char) :
    cutAtDoubleColon (p ++ rest) = (cutAtDoubleColon rest).map (prepend p) := by
  induction p with
  | nil => exact Option.map_id_apply.symm
  | cons c p ih =>
    rw [List.mem_cons, not_or] at hp
    rw [List.cons_append, cutAtDoubleColon, ih hp.2, Option.map_map]
    · rfl
    · exact fun _ hc _ => hp.1 hc.symm

theorem cutAtDoubleColon_colon {c : Char} (hc : c ≠ ':') (rest : List Char) :
    cutAtDoubleColon (':' :: c :: rest) =
      (cutAtDoubleColon (c :: rest)).map (prepend [':']) := by
  rw [cutAtDoubleColon]
  · rfl
  · exact fun _ _ hrest => hc (List.cons.inj hrest).1

/-- **There is no double colon in joined parts, and none arises where a text follows them.** -/
theorem cutAtDoubleColon_join (hps : ∀ p ∈ ps, p ≠ [] ∧ ':' ∉ p) (rest : List Char) :
    cutAtDoubleColon ([':'].intercalate ps ++ rest) =
      (cutAtDoubleColon rest).map (prepend ([':'].intercalate ps)) := by
  induction ps with
  | nil => exact Option.map_id_apply.symm
  | cons p ps ih =>
    obtain ⟨hp, hps⟩ := List.forall_mem_cons.mp hps
    cases ps with
    | nil =>
      rw [List.intercalate_singleton]
      exact cutAtDoubleColon_append hp.2 rest
    | cons q ps =>
      -- The part behind the colon starts with something else.
      obtain ⟨c, more, hc, hmore⟩ : ∃ c more, c ≠ ':' ∧
          [':'].intercalate (q :: ps) ++ rest = c :: more := by
        obtain ⟨hne, hcolon⟩ := hps q List.mem_cons_self
        obtain ⟨c, tail, rfl⟩ := List.exists_cons_of_ne_nil hne
        obtain ⟨back, hback⟩ := Text.exists_intercalate_cons ':' (c :: tail) ps
        have hc : c ≠ ':' := fun h => hcolon (h ▸ List.mem_cons_self)
        exact ⟨c, tail ++ back ++ rest, hc, by rw [hback]; rfl⟩
      rw [List.intercalate_cons_cons, List.append_assoc, List.append_assoc,
        cutAtDoubleColon_append hp.2, List.singleton_append, hmore, cutAtDoubleColon_colon hc,
        ← hmore, ih hps, Option.map_map, Option.map_map]
      refine congrArg (Option.map · _) (funext fun x => ?_)
      simp [prepend]

/-! ## Addresses -/

/-- What a text denotes as an address. -/
inductive Denotes : List Char → IpAddress → Prop
  /-- Four bytes in decimal, with dots between. -/
  | bytes (bytes : Vector UInt8 4) : Denotes (bytesText bytes.toList).toList (v4 bytes)
  /-- Eight groups with colons between. -/
  | groups {ps : List (List Char)} {groups : Vector UInt16 8} (h : Parts true ps groups.toList) :
      Denotes ([':'].intercalate ps) (v6 groups)
  /-- Fewer than eight groups, with a double colon for the groups of zero that are missing. -/
  | zeros {ps qs : List (List Char)} {hs ts : List UInt16} {k : Nat} {groups : Vector UInt16 8}
      (hps : Parts false ps hs) (hqs : Parts true qs ts) (hk : 0 < k)
      (hgroups : groups.toList = hs ++ List.replicate k 0 ++ ts) :
      Denotes ([':'].intercalate ps ++ ':' :: ':' :: [':'].intercalate qs) (v6 groups)

/-- A character of which addresses are written. -/
def IsAddressChar (c : Char) : Prop := (Hex.value? c).isSome ∨ c = '.' ∨ c = ':'

theorem value?_of_isDigit {c : Char} (h : c.isDigit = true) : (Hex.value? c).isSome := by
  have hrange : 0x30 ≤ c.toNat ∧ c.toNat ≤ 0x39 := Char.isDigit_iff_toNat.mp h
  unfold Hex.value?
  dsimp only
  rw [if_pos hrange]
  rfl

theorem isAddressChar_of_mem_bytesText {bytes : List UInt8} {c : Char}
    (hc : c ∈ (bytesText bytes).toList) : IsAddressChar c :=
  (mem_bytesText hc).imp value?_of_isDigit Or.inl

theorem Parts.isAddressChar (h : Parts withBytes ps gs) :
    ∀ c ∈ [':'].intercalate ps, IsAddressChar c := by
  intro c hc
  have hparts : ∀ p ∈ ps, ∀ c ∈ p, IsAddressChar c := by
    clear hc
    induction h with
    | nil => exact fun _ hp => absurd hp List.not_mem_nil
    | bytes _ _ _ _ _ hcs =>
      rw [hcs]
      exact List.forall_mem_singleton.mpr fun c hc => isAddressChar_of_mem_bytesText hc
    | group hg _ ih =>
      exact List.forall_mem_cons.mpr ⟨fun c hc => Or.inl ((Hex.number?_lt hg.2.2).2 c hc), ih⟩
  rcases Text.mem_intercalate hc with rfl | ⟨p, hp, hc⟩
  · exact Or.inr (Or.inr rfl)
  · exact hparts p hp c hc

/-- **Addresses are written in digits, dots and colons.** -/
theorem Denotes.isAddressChar {a : IpAddress} (h : Denotes cs a) : ∀ c ∈ cs, IsAddressChar c := by
  cases h with
  | bytes => exact fun c hc => isAddressChar_of_mem_bytesText hc
  | groups h => exact h.isAddressChar
  | zeros hps hqs =>
    refine List.forall_mem_append.mpr ⟨hps.isAddressChar, List.forall_mem_cons.mpr
      ⟨Or.inr (Or.inr rfl), List.forall_mem_cons.mpr ⟨Or.inr (Or.inr rfl), hqs.isAddressChar⟩⟩⟩

theorem ofGroups?_eq_some_iff {a : IpAddress} : ofGroups? gs = some a ↔
    ∃ groups : Vector UInt16 8, groups.toList = gs ∧ a = v6 groups := by
  unfold ofGroups?
  split
  · next hsize =>
    rw [Option.some.injEq]
    constructor
    · rintro rfl
      exact ⟨_, rfl, rfl⟩
    · rintro ⟨groups, rfl, rfl⟩
      rfl
  · next hsize =>
    refine iff_of_false (fun h => by cases h) ?_
    rintro ⟨groups, rfl, -⟩
    exact hsize groups.length_toList

/-- Whatever is read as groups, the text denotes it. -/
theorem denotes_of_v6? {a : IpAddress} (h : v6? cs = some a) :
    ∃ groups, a = v6 groups ∧ Denotes cs (v6 groups) := by
  unfold v6? at h
  split at h
  · obtain ⟨gs, hgs, hof⟩ := Option.bind_eq_some_iff.mp h
    obtain ⟨ps, hps, rfl⟩ := joined?_eq_some_iff.mp hgs
    obtain ⟨groups, rfl, rfl⟩ := ofGroups?_eq_some_iff.mp hof
    exact ⟨groups, rfl, .groups hps⟩
  · next before after hcut =>
    obtain ⟨hs, hhs, hrest⟩ := Option.bind_eq_some_iff.mp h
    obtain ⟨ts, hts, hfill⟩ := Option.bind_eq_some_iff.mp hrest
    obtain ⟨ps, hps, rfl⟩ := joined?_eq_some_iff.mp hhs
    obtain ⟨qs, hqs, rfl⟩ := joined?_eq_some_iff.mp hts
    split at hfill
    · next hshort =>
      obtain ⟨groups, hgroups, rfl⟩ := ofGroups?_eq_some_iff.mp hfill
      rw [eq_of_cutAtDoubleColon hcut]
      exact ⟨groups, rfl, .zeros hps hqs (by omega) hgroups⟩
    · cases hfill

/-- A text that denotes groups is read to them. -/
theorem Denotes.v6?_eq {groups : Vector UInt16 8} (h : Denotes cs (v6 groups)) :
    v6? cs = some (v6 groups) := by
  cases h with
  | @groups ps _ h =>
    have hcut := cutAtDoubleColon_join h.mem []
    rw [List.append_nil] at hcut
    unfold v6?
    rw [hcut]
    show (joined? true _).bind ofGroups? = _
    rw [joined?_eq_some_iff.mpr ⟨ps, h, rfl⟩]
    exact ofGroups?_eq_some_iff.mpr ⟨groups, rfl, rfl⟩
  | @zeros ps qs hs ts k _ hps hqs hk hgroups =>
    have hcut : cutAtDoubleColon ([':'].intercalate ps ++ ':' :: ':' :: [':'].intercalate qs) =
        some ([':'].intercalate ps, [':'].intercalate qs) := by
      rw [cutAtDoubleColon_join hps.mem, cutAtDoubleColon, Option.map_some, prepend,
        List.append_nil]
    have hlength := congrArg List.length hgroups
    simp only [Vector.length_toList, List.length_append, List.length_replicate] at hlength
    unfold v6?
    rw [hcut]
    dsimp only
    rw [joined?_eq_some_iff.mpr ⟨ps, hps, rfl⟩, joined?_eq_some_iff.mpr ⟨qs, hqs, rfl⟩]
    show (if hs.length + ts.length ≤ 7 then _ else none) = _
    rw [if_pos (by omega), show 8 - hs.length - ts.length = k by omega]
    exact ofGroups?_eq_some_iff.mpr ⟨groups, hgroups, rfl⟩

/-- **Groups are read where a text denotes them.** -/
theorem v6?_eq_some_iff {groups : Vector UInt16 8} :
    v6? cs = some (v6 groups) ↔ Denotes cs (v6 groups) := by
  refine ⟨fun h => ?_, Denotes.v6?_eq⟩
  obtain ⟨_, heq, hdenotes⟩ := denotes_of_v6? h
  cases heq
  exact hdenotes

/-- Parts of many groups are many. -/
theorem Parts.length_le (h : Parts withBytes ps gs) : gs.length ≤ ps.length + 1 := by
  induction h with
  | nil => exact Nat.zero_le _
  | bytes => exact Nat.le_refl 2
  | group _ _ ih => exact Nat.succ_le_succ ih

/-- A text of groups has a colon. -/
theorem Denotes.colon_mem {groups : Vector UInt16 8} (h : Denotes cs (v6 groups)) : ':' ∈ cs := by
  cases h with
  | @groups ps _ h =>
    have hlength := h.length_le
    rw [Vector.length_toList] at hlength
    match ps, hlength with
    | p :: q :: more, _ =>
      rw [List.intercalate_cons_cons]
      exact List.mem_append_left _ (List.mem_append_right p List.mem_cons_self)
  | zeros => exact List.mem_append_right _ List.mem_cons_self

theorem colon_not_mem_bytesText (bytes : List UInt8) : ':' ∉ (bytesText bytes).toList := by
  intro hmem
  rcases mem_bytesText hmem with hdigit | hdot
  · cases hdigit
  · cases hdot

theorem denotes_v4_iff {bytes : Vector UInt8 4} :
    Denotes cs (v4 bytes) ↔ bytes? cs = some bytes := by
  rw [bytes?_eq_some_iff]
  constructor
  · intro h
    cases h
    rfl
  · rintro rfl
    exact .bytes bytes

/-- **A text is read to the address that it denotes.** -/
theorem parse?_eq_some_iff {s : String} {a : IpAddress} :
    parse? s = some a ↔ Denotes s.toList a := by
  unfold parse?
  cases a with
  | v4 bytes =>
    rw [denotes_v4_iff]
    split
    · next other hread => rw [hread, Option.some.injEq, v4.injEq, Option.some.injEq]
    · next hread =>
      refine iff_of_false (fun h => ?_) (fun h => by rw [hread] at h; cases h)
      obtain ⟨groups, heq, -⟩ := denotes_of_v6? h
      cases heq
  | v6 groups =>
    split
    · next bytes hread =>
      refine iff_of_false (fun h => by cases h) fun h => colon_not_mem_bytesText bytes.toList ?_
      rw [← bytes?_eq_some_iff.mp hread]
      exact h.colon_mem
    · exact v6?_eq_some_iff

end IpAddress

end AdminConsole
