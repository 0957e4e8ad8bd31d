import AdminConsole.Text.Hex

/-!
# Universally unique identifiers

An identifier of 128 bits. It is written as five groups of lower-case digits joined by hyphens,
and read in four forms: that one, its 32 digits alone, the hyphenated form in braces, and the
hyphenated form after `urn:uuid:`. The digits and the letters of that label are read in either case.
-/

namespace AdminConsole

/-- A 128-bit identifier. -/
structure Uuid where
  bits : BitVec 128
  deriving DecidableEq, Repr

namespace Uuid

/-- The identifier whose bits are all zero. -/
def nil : Uuid := ⟨0⟩

/-- The identifier with a given value, modulo 2 to the 128. -/
def ofNat (n : Nat) : Uuid := ⟨BitVec.ofNat 128 n⟩

instance : Inhabited Uuid := ⟨nil⟩

/-- The 32 digits, most significant first. -/
def digits (u : Uuid) : List Char := Hex.fixed 32 u.bits.toNat

/-- Thirty-two digits cut into groups of 8, 4, 4, 4 and 12. -/
def hyphenate (ds : List Char) : List Char :=
  ds.take 8 ++ '-' :: (ds.drop 8).take 4 ++ '-' :: (ds.drop 12).take 4 ++
    '-' :: (ds.drop 16).take 4 ++ '-' :: ds.drop 20

/-- The written form. -/
def text (u : Uuid) : String := String.ofList (hyphenate u.digits)

instance : ToString Uuid := ⟨text⟩

/-- The identifier with these 32 digits. -/
def ofDigits? (ds : List Char) : Option Uuid :=
  if ds.length = 32 then (Hex.number? ds).map ofNat else none

/-- The digits of a hyphenated text, if the hyphens stand where they belong. -/
def ofHyphenated? (cs : List Char) : Option Uuid :=
  let ds := cs.take 8 ++ (cs.drop 9).take 4 ++ (cs.drop 14).take 4 ++ (cs.drop 19).take 4 ++
    cs.drop 24
  if cs.length = 36 ∧ cs = hyphenate ds then ofDigits? ds else none

/-- Reads any of the four forms. -/
def parse? (s : String) : Option Uuid :=
  let cs := s.toList
  let n := cs.length
  if n = 32 then ofDigits? cs
  else if n = 36 then ofHyphenated? cs
  else if n = 38 ∧ cs.head? = some '\x7b' ∧ cs.getLast? = some '\x7d' then
    ofHyphenated? ((cs.drop 1).take 36)
  else if n = 45 ∧ (cs.take 9).map Char.toLower = "urn:uuid:".toList then
    ofHyphenated? (cs.drop 9)
  else none

end Uuid

end AdminConsole
