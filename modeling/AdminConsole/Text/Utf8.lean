/-!
# UTF-8

`units` reads bytes as UTF-8 and marks each byte that belongs to no character; a byte string is
text when no byte is marked. Overlong forms, surrogates and values above U+10FFFF are no
characters.
-/

namespace AdminConsole.Utf8

/-- A continuation byte between the bounds. -/
def isTail (lo hi b : UInt8) : Bool := lo ≤ b && b ≤ hi

/-- The six low bits of a continuation byte. -/
def tailBits (b : UInt8) : Nat := b.toNat % 64

/-- The bounds of the second byte after a given first byte of a three-byte character. -/
def secondOfThree (a : UInt8) : UInt8 × UInt8 :=
  if a == 0xe0 then (0xa0, 0xbf) else if a == 0xed then (0x80, 0x9f) else (0x80, 0xbf)

/-- The bounds of the second byte after a given first byte of a four-byte character. -/
def secondOfFour (a : UInt8) : UInt8 × UInt8 :=
  if a == 0xf0 then (0x90, 0xbf) else if a == 0xf4 then (0x80, 0x8f) else (0x80, 0xbf)

/-- The character that starts with the first byte, and how many further bytes it takes. -/
def first? (a : UInt8) (rest : List UInt8) : Option (Char × Nat) :=
  if a < 0x80 then some (Char.ofNat a.toNat, 0)
  else if 0xc2 ≤ a && a ≤ 0xdf then
    match rest with
    | b :: _ =>
      if isTail 0x80 0xbf b then
        some (Char.ofNat (a.toNat % 32 * 64 + tailBits b), 1)
      else none
    | _ => none
  else if 0xe0 ≤ a && a ≤ 0xef then
    match rest with
    | b :: c :: _ =>
      if isTail (secondOfThree a).1 (secondOfThree a).2 b && isTail 0x80 0xbf c then
        some (Char.ofNat (a.toNat % 16 * 4096 + tailBits b * 64 + tailBits c), 2)
      else none
    | _ => none
  else if 0xf0 ≤ a && a ≤ 0xf4 then
    match rest with
    | b :: c :: d :: _ =>
      if isTail (secondOfFour a).1 (secondOfFour a).2 b && isTail 0x80 0xbf c &&
          isTail 0x80 0xbf d then
        some (Char.ofNat (a.toNat % 8 * 262144 + tailBits b * 4096 + tailBits c * 64 +
          tailBits d), 3)
      else none
    | _ => none
  else none

/-- The characters of the bytes after the first `skipped` ones, which belong to a character
already read; `none` stands for a byte of no character. -/
def unitsAfter : Nat → List UInt8 → List (Option Char)
  | _, [] => []
  | skipped + 1, _ :: rest => unitsAfter skipped rest
  | 0, a :: rest =>
    match first? a rest with
    | some (c, further) => some c :: unitsAfter further rest
    | none => none :: unitsAfter 0 rest

/-- The characters of the bytes in order, with `none` for a byte of no character. -/
def units (bs : List UInt8) : List (Option Char) := unitsAfter 0 bs

/-- The text that the bytes spell, if every byte belongs to a character. -/
def decode? (bs : List UInt8) : Option String :=
  ((units bs).mapM id).map String.ofList

/-- The bytes of a text. -/
def encode (s : String) : List UInt8 := s.toUTF8.toList

end AdminConsole.Utf8
