import AdminConsole.Text.Hex
import AdminConsole.Text.Numeral
import AdminConsole.Text.Split

/-!
# Internet addresses

An address is four bytes or eight groups of sixteen bits. Bytes are read as decimal numbers without
leading zeros, groups as at most four hexadecimal digits; `::` stands for a run of zero groups, and
the last two groups may be written as four bytes.

An address of groups is written with its longest run of at least two zero groups, the first of
equals, as `::`; only an address of bytes carried in one of groups ends in bytes.
-/

namespace AdminConsole

/-- An address of one of the two families. -/
inductive IpAddress
  | v4 (bytes : Vector UInt8 4)
  | v6 (groups : Vector UInt16 8)
  deriving DecidableEq

namespace IpAddress

/-- The address of the machine itself. -/
def loopback : IpAddress := v4 #v[127, 0, 0, 1]

/-- The address consists of groups. -/
def isV6 : IpAddress → Bool
  | v4 _ => false
  | v6 _ => true

/-! ## Writing -/

/-- Four bytes in decimal, joined by dots. -/
def bytesText (bytes : List UInt8) : String :=
  ".".intercalate (bytes.map fun b => toString b.toNat)

/-- Groups in hexadecimal, joined by colons. -/
def groupsText (groups : List UInt16) : String :=
  ":".intercalate (groups.map fun g => String.ofList (Hex.digits g.toNat))

/-- The number of zero groups at the front. -/
def zerosAtFront (groups : List UInt16) : Nat := (groups.takeWhile (· == 0)).length

/-- Start and length of the longest run of zero groups, the first of equals. -/
def longestZeros (groups : List UInt16) : Nat × Nat :=
  (List.range groups.length).foldl
    (fun best i =>
      let n := zerosAtFront (groups.drop i)
      if best.2 < n then (i, n) else best)
    (0, 0)

/-- The bytes that an address of groups carries, if it does nothing else. -/
def carried? (groups : List UInt16) : Option (List UInt8) :=
  match groups with
  | [0, 0, 0, 0, 0, 0xffff, x, y] =>
    some [(x >>> 8).toUInt8, x.toUInt8, (y >>> 8).toUInt8, y.toUInt8]
  | _ => none

/-- The written form of eight groups. -/
def v6Text (groups : List UInt16) : String :=
  match carried? groups with
  | some bytes => "::ffff:" ++ bytesText bytes
  | none =>
    let (start, n) := longestZeros groups
    if 1 < n then groupsText (groups.take start) ++ "::" ++ groupsText (groups.drop (start + n))
    else groupsText groups

/-- The written form. -/
def text : IpAddress → String
  | v4 bytes => bytesText bytes.toList
  | v6 groups => v6Text groups.toList

/-! ## Reading -/

/-- The byte that one to three digits without a leading zero denote. -/
def byte? (cs : List Char) : Option UInt8 :=
  if cs.isEmpty ∨ 3 < cs.length ∨ (cs.head? = some '0' ∧ 1 < cs.length) then none
  else match Numeral.magnitude 255 .tooLarge 0 cs with
    | .ok n => some (UInt8.ofNat n)
    | .error _ => none

/-- Four bytes joined by dots. -/
def bytes? (cs : List Char) : Option (Vector UInt8 4) :=
  match (Text.pieces '.' cs).mapM byte? with
  | some [a, b, c, d] => some #v[a, b, c, d]
  | _ => none

/-- The group that one to four digits denote. -/
def group? (cs : List Char) : Option UInt16 :=
  if cs.isEmpty ∨ 4 < cs.length then none else (Hex.number? cs).map UInt16.ofNat

/-- The group that two bytes make. -/
def groupOfBytes (high low : UInt8) : UInt16 := (high.toUInt16 <<< 8) ||| low.toUInt16

/-- Groups from pieces between colons; if `withBytes`, the last piece may be four bytes, which make
two groups. -/
def groups? (withBytes : Bool) : List (List Char) → Option (List UInt16)
  | [] => some []
  | [last] =>
    match group? last with
    | some g => some [g]
    | none =>
      if withBytes then
        (bytes? last).map fun b => [groupOfBytes b[0] b[1], groupOfBytes b[2] b[3]]
      else none
  | piece :: more => do return (← group? piece) :: (← groups? withBytes more)

/-- Groups joined by colons; the empty text is no group. -/
def joined? (withBytes : Bool) (cs : List Char) : Option (List UInt16) :=
  if cs.isEmpty then some [] else groups? withBytes (Text.pieces ':' cs)

/-- What stands before and after the first double colon, if there is one. -/
def cutAtDoubleColon : List Char → Option (List Char × List Char)
  | [] => none
  | ':' :: ':' :: rest => some ([], rest)
  | c :: rest => (cutAtDoubleColon rest).map fun (before, after) => (c :: before, after)

/-- Exactly eight groups as an address. -/
def ofGroups? (groups : List UInt16) : Option IpAddress :=
  if h : groups.toArray.size = 8 then some (v6 ⟨groups.toArray, h⟩) else none

/-- Eight groups, or fewer than eight around a double colon. Before it there are no bytes. -/
def v6? (cs : List Char) : Option IpAddress :=
  match cutAtDoubleColon cs with
  | none => (joined? true cs).bind ofGroups?
  | some (before, after) => do
    let head ← joined? false before
    let tail ← joined? true after
    if head.length + tail.length ≤ 7 then
      ofGroups? (head ++ List.replicate (8 - head.length - tail.length) 0 ++ tail)
    else none

/-- Reads an address of either family. -/
def parse? (s : String) : Option IpAddress :=
  match bytes? s.toList with
  | some bytes => some (v4 bytes)
  | none => v6? s.toList

/-- Reads the address of an endpoint: an address of bytes, or one of groups in brackets with an
optional zone after a per cent sign; then a colon and the number of a service up to 65535. -/
def ofEndpoint? (s : String) : Option IpAddress :=
  let number (bound : Nat) (cs : List Char) : Bool :=
    !cs.isEmpty && (Numeral.magnitude bound .tooLarge 0 cs).toOption.isSome
  match s.toList with
  | '[' :: cs => do
    let (inside, after) ← Text.cut ']' cs
    let address ← match Text.cut '%' inside with
      | none => v6? inside
      | some (before, zone) => if number Numeral.word32 zone then v6? before else none
    match after with
    | ':' :: service => if number 65535 service then some address else none
    | _ => none
  | cs => do
    let (before, service) ← Text.cut ':' cs
    if number 65535 service then (bytes? before).map v4 else none

end IpAddress

end AdminConsole
