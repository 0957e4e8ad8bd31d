/-!
# Blanks and trimming

The blank characters are those with the Unicode property White_Space. `trim` removes them from
both ends of a text, and a text is blank when nothing is left of it.
-/

namespace AdminConsole.Text

/-- The character has the Unicode property White_Space. -/
def isBlank (c : Char) : Bool :=
  let n := c.toNat
  (0x09 ≤ n && n ≤ 0x0d) || n == 0x20 || n == 0x85 || n == 0xa0 || n == 0x1680 ||
    (0x2000 ≤ n && n ≤ 0x200a) || n == 0x2028 || n == 0x2029 || n == 0x202f || n == 0x205f ||
    n == 0x3000

/-- The characters without the blanks at either end. -/
def trimChars (cs : List Char) : List Char :=
  ((cs.dropWhile isBlank).reverse.dropWhile isBlank).reverse

/-- The text without the blanks at either end. -/
def trim (s : String) : String :=
  String.ofList (trimChars s.toList)

/-- Nothing but blanks. -/
def IsBlankText (s : String) : Prop := ∀ c ∈ s.toList, isBlank c = true

instance (s : String) : Decidable (IsBlankText s) := List.decidableBAll _ _

/-- A remark is kept only when it holds more than blanks. -/
def nonblank (s : Option String) : Option String :=
  s.filter fun t => !decide (IsBlankText t)

end AdminConsole.Text
