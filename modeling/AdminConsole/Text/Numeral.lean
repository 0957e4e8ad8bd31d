/-!
# Decimal numerals within bounds

A numeral is an optional sign and at least one ASCII digit. It is read from the left, so of two
faults the one further left is reported; at one place a bad digit comes before a value out of
bounds. Natural numerals take only the sign `+`.
-/

namespace AdminConsole

/-- Why a text is no numeral of the wanted kind. -/
inductive NumeralFault
  | empty
  | badDigit
  | tooLarge
  | tooSmall
  deriving DecidableEq, Repr

namespace NumeralFault

/-- The wording of the fault. -/
def message : NumeralFault → String
  | empty => "cannot parse integer from empty string"
  | badDigit => "invalid digit found in string"
  | tooLarge => "number too large to fit in target type"
  | tooSmall => "number too small to fit in target type"

end NumeralFault

namespace Numeral

/-- The value of an ASCII digit. -/
def digit? (c : Char) : Option Nat :=
  if '0' ≤ c ∧ c ≤ '9' then some (c.toNat - 0x30) else none

/-- Reads digits on top of what stands to their left, up to a greatest value. -/
def magnitude (bound : Nat) (overflow : NumeralFault) :
    Nat → List Char → Except NumeralFault Nat
  | acc, [] => .ok acc
  | acc, c :: rest =>
    match digit? c with
    | none => .error .badDigit
    | some d =>
      if acc * 10 + d ≤ bound then magnitude bound overflow (acc * 10 + d) rest
      else .error overflow

/-- Digits with nothing to their left are no numeral. -/
def unsigned (bound : Nat) (overflow : NumeralFault) (cs : List Char) :
    Except NumeralFault Nat :=
  if cs.isEmpty then .error .badDigit else magnitude bound overflow 0 cs

/-- A numeral of a natural number of at most `bound`. -/
def natural (bound : Nat) (s : String) : Except NumeralFault Nat :=
  match s.toList with
  | [] => .error .empty
  | '+' :: rest => unsigned bound .tooLarge rest
  | cs => magnitude bound .tooLarge 0 cs

/-- A numeral of an integer from `-(bound + 1)` to `bound`. -/
def integer (bound : Nat) (s : String) : Except NumeralFault Int :=
  match s.toList with
  | [] => .error .empty
  | '+' :: rest => Int.ofNat <$> unsigned bound .tooLarge rest
  | '-' :: rest => (fun n => -Int.ofNat n) <$> unsigned (bound + 1) .tooSmall rest
  | cs => Int.ofNat <$> magnitude bound .tooLarge 0 cs

/-- The greatest unsigned word of 32 bits. -/
def word32 : Nat := UInt32.size - 1

/-- The greatest unsigned word of 64 bits. -/
def word64 : Nat := UInt64.size - 1

/-- The greatest signed word of 64 bits. -/
def signed64 : Nat := UInt64.size / 2 - 1

/-- The decimal digits of `n` in at least `width` places. -/
def padded (width n : Nat) : String :=
  let ds := (Nat.toDigits 10 n)
  String.ofList (List.replicate (width - ds.length) '0' ++ ds)

end Numeral

end AdminConsole
