/-!
# Hexadecimal text

Digits and their values, bytes as two digits, and numbers padded to a fixed count of digits.
Writing uses lower case; reading takes either case.
-/

namespace AdminConsole.Hex

/-- The lower-case digit of a value below sixteen. -/
def digit (n : Nat) : Char :=
  if n < 10 then Char.ofNat (0x30 + n) else Char.ofNat (0x57 + n)

/-- The value of a digit of either case. -/
def value? (c : Char) : Option Nat :=
  let n := c.toNat
  if 0x30 ≤ n ∧ n ≤ 0x39 then some (n - 0x30)
  else if 0x61 ≤ n ∧ n ≤ 0x66 then some (n - 0x57)
  else if 0x41 ≤ n ∧ n ≤ 0x46 then some (n - 0x37)
  else none

/-- The last `k` digits of `n`, most significant first. -/
def fixed : Nat → Nat → List Char
  | 0, _ => []
  | k + 1, n => fixed k (n / 16) ++ [digit (n % 16)]

/-- The digits of `n` without leading zeros; zero is one digit. -/
def digits (n : Nat) : List Char :=
  let padded := fixed 32 n
  match padded.dropWhile (· == '0') with
  | [] => ['0']
  | ds => ds

/-- The number that a list of digits denotes, or nothing if one of them is no digit. -/
def number? (cs : List Char) : Option Nat :=
  cs.foldlM (fun acc c => (value? c).map (acc * 16 + ·)) 0

/-- Two digits for each byte. -/
def ofBytes (bs : List UInt8) : String :=
  String.ofList (bs.flatMap fun b => fixed 2 b.toNat)

/-- The bytes of an even number of digits. -/
def toBytes? : List Char → Option (List UInt8)
  | [] => some []
  | [_] => none
  | a :: b :: rest => do
    let hi ← value? a
    let lo ← value? b
    return UInt8.ofNat (hi * 16 + lo) :: (← toBytes? rest)

end AdminConsole.Hex
