import AdminConsole.Proofs.Net.Address

/-! # Addresses printed

The printed text of an address denotes it, whichever zeros are left out and
whether the last groups are printed as bytes (`IpAddress.denotes_text`).  So the
address is read back from it (`IpAddress.parse?_text`).
-/
namespace AdminConsole

namespace IpAddress

variable {gs : List UInt16}

/-- The two bytes of a group make the group. -/
theorem groupOfBytes_split (x : UInt16) : groupOfBytes (x >>> 8).toUInt8 x.toUInt8 = x := by
  have hx : x.toNat < 65536 := x.toNat_lt
  have hhigh : x.toNat >>> 8 % 256 = x.toNat / 256 := by
    rw [Nat.shiftRight_eq_div_pow]
    omega
  have hshift : (x.toNat / 256) <<< 8 % 65536 = (x.toNat / 256) <<< 8 := by
    rw [Nat.shiftLeft_eq]
    omega
  have hlow : x.toNat % 256 < 2 ^ 8 := Nat.mod_lt _ (by decide)
  apply UInt16.toNat_inj.mp
  simp only [groupOfBytes, UInt16.toNat_or, UInt16.toNat_shiftLeft, UInt8.toNat_toUInt16,
    UInt16.toNat_toUInt8, UInt16.toNat_shiftRight, UInt16.reduceToNat, Nat.reduceMod,
    Nat.reducePow]
  rw [hhigh, hshift, ← Nat.shiftLeft_add_eq_or_of_lt hlow, Nat.shiftLeft_eq]
  omega

/-- The text of groups is that of each group, with colons between. -/
theorem toList_groupsText (gs : List UInt16) : (groupsText gs).toList =
    [':'].intercalate (gs.map fun g => Hex.digits g.toNat) := by
  rw [groupsText, String.toList_intercalate, List.map_map]
  exact congrArg _ (List.map_congr_left fun _ _ => String.toList_ofList)

theorem isGroup_digits (g : UInt16) : IsGroup (Hex.digits g.toNat) g := by
  have hg : g.toNat < Nat.pow 16 4 := g.toNat_lt
  obtain ⟨hread, hlength, -⟩ := Hex.number?_digits (by decide) (by decide) hg
  refine ⟨?_, hlength, hread⟩
  unfold Hex.digits
  dsimp only
  split
  · exact List.cons_ne_nil '0' []
  · next hne => exact hne

theorem parts_digits (withBytes : Bool) (gs : List UInt16) :
    Parts withBytes (gs.map fun g => Hex.digits g.toNat) gs := by
  induction gs with
  | nil => exact .nil
  | cons g gs ih => exact .group (isGroup_digits g) ih

/-! ## Runs of zeros -/

theorem eq_zerosAtFront (gs : List UInt16) :
    gs = List.replicate (zerosAtFront gs) 0 ++ gs.drop (zerosAtFront gs) := by
  have hzeros : gs.takeWhile (· == 0) = List.replicate (zerosAtFront gs) 0 :=
    List.eq_replicate_iff.mpr ⟨rfl, fun g hg => by simpa using List.mem_takeWhile_imp hg⟩
  rw [← hzeros]
  exact (List.prefix_iff_eq_append.mp (List.takeWhile_prefix (· == 0))).symm

/-- From this place on there are so many groups of zero. -/
def IsRun (gs : List UInt16) (run : Nat × Nat) : Prop :=
  gs = gs.take run.1 ++ List.replicate run.2 0 ++ gs.drop (run.1 + run.2)

/-- **Where the longest run of zeros is found, there is a run of zeros.** -/
theorem isRun_longestZeros (gs : List UInt16) : IsRun gs (longestZeros gs) := by
  refine List.foldlRecOn (motive := IsRun gs) _ _ rfl fun best hbest i _ => ?_
  dsimp only
  split
  · rw [IsRun, List.append_assoc, ← List.drop_drop, ← eq_zerosAtFront, List.take_append_drop]
  · exact hbest

theorem carried?_eq_some_iff {bytes : List UInt8} : carried? gs = some bytes ↔
    ∃ x y, gs = [0, 0, 0, 0, 0, 0xffff, x, y] ∧
      bytes = [(x >>> 8).toUInt8, x.toUInt8, (y >>> 8).toUInt8, y.toUInt8] := by
  unfold carried?
  split
  · next x y =>
    rw [Option.some.injEq]
    constructor
    · rintro rfl
      exact ⟨x, y, rfl, rfl⟩
    · rintro ⟨x', y', hgs, rfl⟩
      simp only [List.cons.injEq, and_true, true_and] at hgs
      rw [hgs.1, hgs.2]
  · next hother =>
    refine iff_of_false (fun h => by cases h) ?_
    rintro ⟨x, y, hgs, -⟩
    exact hother x y hgs

/-- **The text that is printed for an address denotes it.** -/
theorem denotes_text (a : IpAddress) : Denotes a.text.toList a := by
  cases a with
  | v4 bytes => exact .bytes bytes
  | v6 groups =>
    show Denotes (v6Text groups.toList).toList (v6 groups)
    unfold v6Text
    split
    · next bytes hcarried =>
      obtain ⟨x, y, hgroups, hbytes⟩ := carried?_eq_some_iff.mp hcarried
      have hlast : Parts true [(bytesText bytes).toList]
          [groupOfBytes (x >>> 8).toUInt8 x.toUInt8, groupOfBytes (y >>> 8).toUInt8 y.toUInt8] := by
        exact .bytes rfl (x >>> 8).toUInt8 x.toUInt8 (y >>> 8).toUInt8 y.toUInt8 (by rw [hbytes])
      rw [groupOfBytes_split, groupOfBytes_split] at hlast
      have hcarrier : IsGroup ['f', 'f', 'f', 'f'] 0xffff := ⟨by decide, by decide, rfl⟩
      have hdenotes := Denotes.zeros .nil (.group hcarrier hlast) (by decide : 0 < 5) hgroups
      rw [List.intercalate_cons_cons, List.intercalate_singleton] at hdenotes
      rw [String.toList_append]
      exact hdenotes
    · dsimp only
      split
      · next hlong =>
        rw [String.toList_append, String.toList_append, toList_groupsText, toList_groupsText,
          List.append_assoc]
        exact .zeros (parts_digits false _) (parts_digits true _) (Nat.zero_lt_of_lt hlong)
          (isRun_longestZeros groups.toList)
      · rw [toList_groupsText]
        exact .groups (parts_digits true groups.toList)

/-- **An address is read back from its text.** -/
theorem parse?_text (a : IpAddress) : parse? a.text = some a :=
  parse?_eq_some_iff.mpr (denotes_text a)

end IpAddress

end AdminConsole
