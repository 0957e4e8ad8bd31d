import AdminConsole.Text.Blank
import AdminConsole.Text.Numeral
import AdminConsole.Time.Instant

/-!
# Time stamps

Instants are written in universal time as RFC 3339 has it, with as many groups of three fraction
digits as are needed, or with exactly three. Years outside 0000 to 9999 carry a sign.

Reading is more liberal than writing: fields may be short, blanks may stand before a field and
around the separators, `T` and `Z` may be small, a blank may stand for `T`, and `UTC` for `Z`. A
fraction is cut after nine digits. Impossible dates and times are refused.
-/

namespace AdminConsole

namespace Date

/-- A year: four digits, or a sign and at least four. -/
def yearText (year : Int) : String :=
  if 0 ≤ year ∧ year ≤ 9999 then Numeral.padded 4 year.toNat
  else (if year < 0 then "-" else "+") ++ Numeral.padded 4 year.natAbs

/-- A day as year, month and day of the month. -/
def text (d : Date) : String :=
  yearText d.year ++ "-" ++ Numeral.padded 2 d.month ++ "-" ++ Numeral.padded 2 d.day

end Date

namespace Instant

/-! ## Writing -/

/-- Date and time of day up to the second. -/
def textToSecond (t : Instant) : String :=
  let s := t.secondOfDay
  let leap := t.nanos / 1000000000
  t.date.text ++ "T" ++ Numeral.padded 2 (s / 3600) ++ ":" ++ Numeral.padded 2 (s / 60 % 60) ++
    ":" ++ Numeral.padded 2 (s % 60 + leap)

/-- The fraction of a second in three, six or nine digits, or nothing when it is zero. -/
def fractionText (nanos : Nat) : String :=
  let n := nanos % 1000000000
  if n = 0 then ""
  else if n % 1000000 = 0 then "." ++ Numeral.padded 3 (n / 1000000)
  else if n % 1000 = 0 then "." ++ Numeral.padded 6 (n / 1000)
  else "." ++ Numeral.padded 9 n

/-- The written form with as many fraction digits as are needed. -/
def text (t : Instant) : String := t.textToSecond ++ fractionText t.nanos ++ "Z"

/-- The written form with exactly three fraction digits. -/
def textMillis (t : Instant) : String :=
  t.textToSecond ++ "." ++ Numeral.padded 3 (t.nanos % 1000000000 / 1000000) ++ "Z"

end Instant

/-! ## Reading -/

namespace TimeReader

/-- The characters after leading blanks. -/
def skipBlanks (cs : List Char) : List Char := cs.dropWhile Text.isBlank

/-- The number that ASCII digits denote. -/
def digitsValue (ds : List Char) : Nat :=
  ds.foldl (fun acc c => acc * 10 + (c.toNat - 0x30)) 0

/-- A number of one to `width` digits and what follows it. -/
def number (width : Nat) (cs : List Char) : Option (Nat × List Char) :=
  let ds := (cs.take width).takeWhile Char.isDigit
  if ds.isEmpty then none else some (digitsValue ds, cs.drop ds.length)

/-- A field: blanks, then a number of one to `width` digits. -/
def field (width : Nat) (cs : List Char) : Option (Nat × List Char) :=
  number width (skipBlanks cs)

/-- A year: up to four digits, or a sign and any number of digits. -/
def year (cs : List Char) : Option (Int × List Char) :=
  match skipBlanks cs with
  | '-' :: rest => (number rest.length rest).map fun (n, after) => (-Int.ofNat n, after)
  | '+' :: rest => (number rest.length rest).map fun (n, after) => (Int.ofNat n, after)
  | rest => (number 4 rest).map fun (n, after) => (Int.ofNat n, after)

/-- What follows a separator, which may have blanks before it. -/
def separator (c : Char) (cs : List Char) : Option (List Char) :=
  match skipBlanks cs with
  | d :: rest => if c == d then some rest else none
  | [] => none

/-- A date and what follows it. -/
def date (cs : List Char) : Option (Date × List Char) := do
  let (y, cs) ← year cs
  let cs ← separator '-' cs
  let (m, cs) ← field 2 cs
  let cs ← separator '-' cs
  let (d, cs) ← field 2 cs
  let date : Date := { year := y, month := m, day := d }
  if date.IsValid then return (date, cs) else none

/-- The nanoseconds of an optional fraction and what follows it. -/
def fraction (cs : List Char) : Option (Nat × List Char) :=
  match cs with
  | '.' :: rest =>
    let ds := rest.takeWhile Char.isDigit
    if ds.isEmpty then none
    else
      let kept := ds.take 9
      some (digitsValue kept * Nat.pow 10 (9 - kept.length), rest.drop ds.length)
  | _ => some (0, cs)

/-- A time of day as seconds and nanoseconds, and what follows it. The second 60 is a leap
second. -/
def timeOfDay (cs : List Char) : Option ((Nat × Nat) × List Char) := do
  let (h, cs) ← field 2 cs
  let cs ← separator ':' cs
  let (m, cs) ← field 2 cs
  let cs ← separator ':' cs
  let (s, cs) ← field 2 cs
  let (nanos, cs) ← fraction cs
  if h ≤ 23 ∧ m ≤ 59 ∧ s ≤ 60 then
    if s = 60 then return ((h * 3600 + m * 60 + 59, nanos + 1000000000), cs)
    else return ((h * 3600 + m * 60 + s, nanos), cs)
  else none

/-- The seconds that an offset written in hours and minutes stands for. -/
def offsetSeconds (cs : List Char) : Option (Nat × List Char) :=
  match cs with
  | a :: b :: rest =>
    if a.isDigit && b.isDigit then
      match rest.dropWhile fun c => c == ':' || Text.isBlank c with
      | m :: n :: after =>
        if '0' ≤ m && m ≤ '5' && n.isDigit then
          some (digitsValue [a, b] * 3600 + digitsValue [m, n] * 60, after)
        else none
      | _ => none
    else none
  | _ => none

/-- An offset from universal time in seconds, of less than a day, and what follows it. -/
def offset (cs : List Char) : Option (Int × List Char) :=
  let signed (sign : Int) (rest : List Char) : Option (Int × List Char) := do
    let (n, after) ← offsetSeconds rest
    if n < 86400 then return (sign * n, after) else none
  match cs with
  | [] => none
  | c :: rest =>
    if (cs.take 3).map Char.toUpper = ['U', 'T', 'C'] then some (0, cs.drop 3)
    else if c == 'Z' || c == 'z' then some (0, rest)
    else if c == '+' then signed 1 rest
    else if c == '-' || c == '−' then signed (-1) rest
    else none

end TimeReader

namespace Date

/-- Reads a day; blanks may stand around the parts. -/
def parse? (s : String) : Option Date := do
  let (d, rest) ← TimeReader.date s.toList
  if (TimeReader.skipBlanks rest).isEmpty then return d else none

end Date

namespace Instant

/-- Reads a time stamp. -/
def parse? (s : String) : Option Instant := do
  let (d, rest) ← TimeReader.date s.toList
  let rest ← match rest with
    | c :: rest => if c == 'T' || c == 't' || c == ' ' then some rest else none
    | [] => none
  let ((second, nanos), rest) ← TimeReader.timeOfDay rest
  let (offset, rest) ← TimeReader.offset (TimeReader.skipBlanks rest)
  let t : Instant := { seconds := d.toDays * secondsPerDay + second - offset, nanos := nanos }
  if (TimeReader.skipBlanks rest).isEmpty ∧ t.InCalendar then return t else none

end Instant

end AdminConsole
