import AdminConsole.Text.Hex
import AdminConsole.Text.Numeral
import AdminConsole.Text.Utf8

/-!
# The words of a JSON text

`Token.scan` cuts a text into words. Where the text leaves the JSON grammar a `broken` word is put
and the rest is dropped, so a reader that stops earlier never sees the fault. A string may hold
characters that cannot be read (half of a surrogate pair, or bytes that are no text); such a
string is still one word, so that it can be passed over.
-/

namespace AdminConsole.Json

/-- What a numeral denotes, as far as reading cares. -/
inductive Number
  /-- A whole number of 64 bits, written without fraction and exponent. -/
  | whole (n : Int)
  /-- Any other number within the range of doubles. -/
  | other
  /-- A number beyond the range of doubles. -/
  | excessive
  deriving DecidableEq, Repr

/-- A word of a JSON text. -/
inductive Token
  | openBrace
  | closeBrace
  | openBracket
  | closeBracket
  | comma
  | colon
  | null
  | bool (b : Bool)
  | number (n : Number)
  /-- A string, with its text unless that cannot be read. -/
  | str (text : Option String)
  /-- Here the text leaves the grammar. -/
  | broken
  deriving DecidableEq, Repr

namespace Token

/-! ## Strings -/

/-- A piece of a string between its quotes. -/
inductive Piece
  | char (c : Char)
  /-- A UTF-16 unit written by its number. -/
  | unit (n : Nat)
  /-- A byte of no character. -/
  | stray
  deriving DecidableEq, Repr

/-- The character behind a one-letter escape. -/
def letterEscape? (c : Char) : Option Char :=
  if c == '"' then some '"'
  else if c == '\\' then some '\\'
  else if c == '/' then some '/'
  else if c == 'b' then some (Char.ofNat 8)
  else if c == 'f' then some (Char.ofNat 12)
  else if c == 'n' then some '\n'
  else if c == 'r' then some '\r'
  else if c == 't' then some '\t'
  else none

/-- The pieces up to the closing quote and what follows it; nothing if the string is not closed or
holds a control character or a bad escape. -/
def pieces : List (Option Char) → Option (List Piece × List (Option Char))
  | [] => none
  | none :: rest => (pieces rest).map fun (ps, after) => (.stray :: ps, after)
  | some '\\' :: some 'u' :: some a :: some b :: some c :: some d :: rest =>
    match Hex.number? [a, b, c, d] with
    | some n => (pieces rest).map fun (ps, after) => (.unit n :: ps, after)
    | none => none
  | some '\\' :: some e :: rest =>
    match letterEscape? e with
    | some c => (pieces rest).map fun (ps, after) => (.char c :: ps, after)
    | none => none
  | some c :: rest =>
    if c == '"' then some ([], rest)
    else if c.toNat < 0x20 || c == '\\' then none
    else (pieces rest).map fun (ps, after) => (.char c :: ps, after)

/-- The first unit of a surrogate pair. -/
def isHighUnit (n : Nat) : Bool := 0xd800 ≤ n && n ≤ 0xdbff

/-- The second unit of a surrogate pair. -/
def isLowUnit (n : Nat) : Bool := 0xdc00 ≤ n && n ≤ 0xdfff

/-- The characters of the pieces, if every one can be read: a surrogate only as half of a pair. -/
def characters? : List Piece → Option (List Char)
  | [] => some []
  | .char c :: rest => (characters? rest).map (c :: ·)
  | .stray :: _ => none
  | .unit n :: .unit m :: rest =>
    if isHighUnit n then
      if isLowUnit m then
        (characters? rest).map
          (Char.ofNat (0x10000 + (n - 0xd800) * 0x400 + (m - 0xdc00)) :: ·)
      else none
    else if isLowUnit n then none
    else (characters? (.unit m :: rest)).map (Char.ofNat n :: ·)
  | .unit n :: rest =>
    if isHighUnit n || isLowUnit n then none
    else (characters? rest).map (Char.ofNat n :: ·)

/-! ## Numbers -/

/-- The leading digits and the rest. -/
def takeDigits (cs : List (Option Char)) : List Char × List (Option Char) :=
  match cs with
  | some c :: rest =>
    if c.isDigit then
      let (ds, after) := takeDigits rest
      (c :: ds, after)
    else ([], cs)
  | _ => ([], cs)

/-- The number that decimal digits denote. -/
def digitsValue (ds : List Char) : Nat :=
  ds.foldl (fun acc c => acc * 10 + (c.toNat - 0x30)) 0

/-- The least magnitude that no longer rounds to a double. -/
def doubleLimit : Nat := Nat.pow 2 1024 - Nat.pow 2 970

/-- Is `mantissa` times ten to the `exponent` beyond the doubles? -/
def exceedsDouble (mantissa : Nat) (exponent : Int) : Bool :=
  if mantissa = 0 then false
  else if exponent > 400 then true
  else if exponent ≥ 0 then doubleLimit ≤ mantissa * Nat.pow 10 exponent.toNat
  else if (Nat.toDigits 10 mantissa).length ≤ 300 + exponent.natAbs then false
  else doubleLimit * Nat.pow 10 exponent.natAbs ≤ mantissa

/-- The number with the given parts; `marked` says that it has a fraction or an exponent. -/
def classify (negative marked : Bool) (mantissa : Nat) (exponent : Int) : Number :=
  if marked then
    if exceedsDouble mantissa exponent then .excessive else .other
  else if negative then
    if mantissa = 0 ∨ Numeral.signed64 + 1 < mantissa then
      if exceedsDouble mantissa exponent then .excessive else .other
    else .whole (-Int.ofNat mantissa)
  else if mantissa ≤ Numeral.word64 then .whole mantissa
  else if exceedsDouble mantissa exponent then .excessive else .other

/-- The exponent part, if there is one: its value and what follows it. -/
def takeExponent (cs : List (Option Char)) : Option (Option Int × List (Option Char)) :=
  match cs with
  | some e :: rest =>
    if e == 'e' || e == 'E' then
      let (negative, rest) := match rest with
        | some '-' :: r => (true, r)
        | some '+' :: r => (false, r)
        | r => (false, r)
      match takeDigits rest with
      | ([], _) => none
      | (ds, after) =>
        let n := Int.ofNat (digitsValue ds)
        some (some (if negative then -n else n), after)
    else some (none, cs)
  | _ => some (none, cs)

/-- The fraction part, if there is one: its digits and what follows them. -/
def takeFraction (cs : List (Option Char)) : Option (List Char × List (Option Char)) :=
  match cs with
  | some '.' :: rest =>
    match takeDigits rest with
    | ([], _) => none
    | (ds, after) => some (ds, after)
  | _ => some ([], cs)

/-- The number after an optional minus sign, and what follows it. -/
def takeNumber (negative : Bool) (cs : List (Option Char)) :
    Option (Number × List (Option Char)) :=
  match takeDigits cs with
  | ([], _) => none
  | (whole, rest) =>
    if whole.head? = some '0' ∧ whole.length ≠ 1 then none
    else do
      let (fraction, rest) ← takeFraction rest
      let (exponent, rest) ← takeExponent rest
      let marked := !fraction.isEmpty || exponent.isSome
      return (classify negative marked (digitsValue (whole ++ fraction))
        (exponent.getD 0 - fraction.length), rest)

/-! ## Words -/

/-- The characters that may stand between words. -/
def isSpace (c : Char) : Bool := c == ' ' || c == '\n' || c == '\t' || c == '\r'

/-- What follows the letters of a word, if they stand at the front. -/
def after? : List Char → List (Option Char) → Option (List (Option Char))
  | [], cs => some cs
  | w :: ws, some c :: cs => if w == c then after? ws cs else none
  | _ :: _, _ => none

/-- The word that starts with `c` and what follows it. -/
def word? (c : Char) (rest : List (Option Char)) : Option (Token × List (Option Char)) :=
  match c with
  | '\x7b' => some (.openBrace, rest)
  | '\x7d' => some (.closeBrace, rest)
  | '[' => some (.openBracket, rest)
  | ']' => some (.closeBracket, rest)
  | ',' => some (.comma, rest)
  | ':' => some (.colon, rest)
  | '"' => (pieces rest).map fun (ps, after) =>
      (.str ((characters? ps).map String.ofList), after)
  | 'n' => (after? ['u', 'l', 'l'] rest).map (Token.null, ·)
  | 't' => (after? ['r', 'u', 'e'] rest).map (Token.bool true, ·)
  | 'f' => (after? ['a', 'l', 's', 'e'] rest).map (Token.bool false, ·)
  | '-' => (takeNumber true rest).map fun (n, after) => (.number n, after)
  | c => (takeNumber false (some c :: rest)).map fun (n, after) => (.number n, after)

/-- Scans at most as many words as `fuel` says. -/
def scanWithin : Nat → List (Option Char) → List Token
  | _, [] => []
  | 0, _ => [.broken]
  | _ + 1, none :: _ => [.broken]
  | fuel + 1, some c :: rest =>
    if isSpace c then scanWithin fuel rest
    else match word? c rest with
      | some (token, after) => token :: scanWithin fuel after
      | none => [.broken]

/-- The words of a text given as characters, with `none` for a byte of no character. -/
def scan (cs : List (Option Char)) : List Token := scanWithin cs.length cs

/-- The words of a byte string. -/
def ofBytes (bs : List UInt8) : List Token := scan (Utf8.units bs)

/-- The words of a text. -/
def ofText (s : String) : List Token := scan (s.toList.map some)

end Token

end AdminConsole.Json
