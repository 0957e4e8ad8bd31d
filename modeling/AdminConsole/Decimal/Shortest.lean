/-!
# The shortest decimal of a double

The reals that round to a double form an interval. It ends halfway to the neighbours of the double,
and the ends belong to it when the mantissa is even. `Binary64.shortest` looks for the coarsest
decimal grid with a point in the interval, and takes the point on it that is nearest to the double;
of two points equally near, the even one.
-/

namespace AdminConsole

/-- A finite double without its sign: `mantissa` times two to the `exponent`. -/
structure Binary64 where
  mantissa : Nat
  exponent : Int
  /-- The double below is half as far away as the one above. -/
  isNarrowBelow : Bool
  deriving DecidableEq, Repr

/-- A decimal: `digits` times ten to the `exponent`. -/
structure Decimal where
  digits : Nat
  exponent : Int
  deriving DecidableEq, Repr

namespace Binary64

/-- The mantissa of the least double that has all its bits. -/
def leadingBit : Nat := Nat.pow 2 52

/-- The exponent field of a double; it is full for what is not finite. -/
def exponentField (bits : UInt64) : Nat := bits.toNat / leadingBit % 2048

/-- The bits are those of a number. -/
def isFinite (bits : UInt64) : Bool := exponentField bits != 2047

/-- The bits have the sign of negative numbers. -/
def isNegative (bits : UInt64) : Bool := bits.toNat / Nat.pow 2 63 == 1

/-- The magnitude of the finite double with the given bits. -/
def ofBits (bits : UInt64) : Binary64 :=
  let field := exponentField bits
  let fraction := bits.toNat % leadingBit
  if field = 0 then { mantissa := fraction, exponent := -1074, isNarrowBelow := false }
  else {
    mantissa := leadingBit + fraction
    exponent := Int.ofNat field - 1075
    isNarrowBelow := fraction = 0 ∧ 1 < field }

/-- The factor of two to the `i` over ten to the `k`, as numerator and denominator. -/
def scale (i k : Int) : Nat × Nat :=
  (Nat.pow 2 i.toNat * Nat.pow 10 (-k).toNat, Nat.pow 2 (-i).toNat * Nat.pow 10 k.toNat)

/-- `n` times ten to the `k` rounds to the double. -/
def roundsTo (x : Binary64) (n : Nat) (k : Int) : Bool :=
  let (up, down) := scale (x.exponent - 2) k
  let low := (4 * x.mantissa - if x.isNarrowBelow then 1 else 2) * up
  let high := (4 * x.mantissa + 2) * up
  if x.mantissa % 2 = 0 then low ≤ n * down && n * down ≤ high
  else low < n * down && n * down < high

/-- The upper of the two points around the double on the grid of ten to the `k` is nearer, or is as
near and even. `n` is the lower one. -/
def prefersUpper (x : Binary64) (n : Nat) (k : Int) : Bool :=
  let (up, down) := scale x.exponent k
  let twice := 2 * (x.mantissa * up)
  let middle := (2 * n + 1) * down
  middle < twice || (middle == twice && n % 2 == 1)

/-- The point of the grid of ten to the `k` that rounds to the double and is nearest to it. -/
def onGrid? (x : Binary64) (k : Int) : Option Nat :=
  let (up, down) := scale x.exponent k
  let n := x.mantissa * up / down
  match x.roundsTo n k, x.roundsTo (n + 1) k with
  | true, true => some (if x.prefersUpper n k then n + 1 else n)
  | true, false => some n
  | false, true => some (n + 1)
  | false, false => none

/-- An exponent of ten that the double stays below. It is found from the number of its bits, a bit
being less than 0.30103 digits. -/
def ceiling (x : Binary64) : Int :=
  Int.fdiv ((Int.ofNat x.mantissa.log2 + 1 + x.exponent) * 30103) 100000 + 2

/-- The exact decimal of the double. -/
def exactDecimal (x : Binary64) : Decimal :=
  { digits := x.mantissa * Nat.pow 2 x.exponent.toNat * Nat.pow 5 (-x.exponent).toNat
    exponent := min x.exponent 0 }

/-- The shortest decimal that rounds to the double, which is not zero. Seventeen digits are always
enough, and the grids that are tried go beyond them. -/
def shortest (x : Binary64) : Decimal :=
  let found := (List.range 24).findSome? fun i =>
    let k := x.ceiling - Int.ofNat i
    (x.onGrid? k).map fun n => { digits := n, exponent := k }
  found.getD x.exactDecimal

end Binary64

end AdminConsole
