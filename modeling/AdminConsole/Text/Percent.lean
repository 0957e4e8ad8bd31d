import AdminConsole.Text.Hex
import AdminConsole.Text.Utf8

/-!
# Percent encoding

A per cent sign before two hexadecimal digits stands for one byte; any other per cent sign stands
for itself.
-/

namespace AdminConsole.Percent

/-- The byte that two digits at the front denote. -/
def byte? : List UInt8 → Option UInt8
  | hi :: lo :: _ => do
    let h ← Hex.value? (Char.ofNat hi.toNat)
    let l ← Hex.value? (Char.ofNat lo.toNat)
    return UInt8.ofNat (h * 16 + l)
  | _ => none

/-- The bytes behind a percent-encoded byte string, of which the first `skipped` bytes are digits
already read. -/
def decodeAfter : Nat → List UInt8 → List UInt8
  | _, [] => []
  | skipped + 1, _ :: rest => decodeAfter skipped rest
  | 0, b :: rest =>
    if b == 0x25 then
      match byte? rest with
      | some decoded => decoded :: decodeAfter 2 rest
      | none => b :: decodeAfter 0 rest
    else b :: decodeAfter 0 rest

/-- The bytes behind a percent-encoded byte string. -/
def decodeBytes (bs : List UInt8) : List UInt8 := decodeAfter 0 bs

/-- The text behind a percent-encoded text, unless its bytes are no text. -/
def decode? (s : String) : Option String :=
  Utf8.decode? (decodeBytes (Utf8.encode s))

end AdminConsole.Percent
