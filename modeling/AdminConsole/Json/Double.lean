import AdminConsole.Decimal.Shortest

/-!
# Doubles in JSON

A double is written with the fewest digits that read back as it. Magnitudes from a
hundred-thousandth up to ten to the sixteenth are written positionally, with at least one decimal
place; the others with an exponent. What is not finite is null.
-/

namespace AdminConsole.Json

/-- `n` zeros. -/
def zeros (n : Nat) : List Char := List.replicate n '0'

/-- A decimal whose last digit is not zero, as it is written. -/
def renderDecimal (d : Decimal) : List Char :=
  let ds := Nat.toDigits 10 d.digits
  let point := Int.ofNat ds.length + d.exponent
  let whole := point.toNat
  if 0 < point ∧ point ≤ 16 then
    if 0 ≤ d.exponent then ds ++ zeros d.exponent.toNat ++ ['.', '0']
    else ds.take whole ++ '.' :: ds.drop whole
  else if -5 < point ∧ point ≤ 0 then '0' :: '.' :: (zeros (-point).toNat ++ ds)
  else
    let tail := 'e' :: (toString (point - 1)).toList
    match ds with
    | [] => tail
    | [c] => c :: tail
    | c :: rest => c :: '.' :: (rest ++ tail)

/-- The double with the given bits, as it is written. -/
def renderDouble (bits : UInt64) : String :=
  if Binary64.isFinite bits then
    let magnitude := Binary64.ofBits bits
    let text := if magnitude.mantissa = 0 then ['0', '.', '0'] else renderDecimal magnitude.shortest
    String.ofList (if Binary64.isNegative bits then '-' :: text else text)
  else "null"

end AdminConsole.Json
