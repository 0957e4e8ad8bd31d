import AdminConsole.Abort

/-!
# Sums in words

Amounts of money and counters are kept in words of 64 bits. A sum that does not fit into a word is
cut to one, or stops the program: which of the two is decided when the program is built.
-/

namespace AdminConsole

/-- Words stand for whole numbers, and what is left of a number is a word again. -/
class Word (α : Type) [Add α] where
  /-- The number that a word stands for. -/
  number : α → Int
  /-- The word that is left of a number. -/
  cut : Int → α
  cut_number : ∀ w, cut (number w) = w
  cut_add : ∀ m n, cut (m + n) = cut m + cut n
  number_zero : number (cut 0) = 0

instance : Word Int64 where
  number := Int64.toInt
  cut := Int64.ofInt
  cut_number := Int64.ofInt_toInt
  cut_add := Int64.ofInt_add
  number_zero := by decide

instance : Word UInt64 where
  number w := w.toNat
  cut := UInt64.ofInt
  cut_number w := by
    have hlt : w.toNat < 2 ^ 64 := w.toNat_lt
    have hcut : ((w.toNat : Int) % 2 ^ 64).toNat = w.toNat := by omega
    rw [UInt64.ofInt, hcut, UInt64.ofNat_toNat]
  cut_add := UInt64.ofInt_add
  number_zero := by decide

/-- What becomes of a sum that does not fit into a word. -/
inductive Overflow
  /-- It is cut to a word. -/
  | wraps
  /-- It stops the program. -/
  | stops
  deriving DecidableEq, Repr

namespace Overflow

variable {α : Type} [Add α] [Word α]

/-- The word that was computed for a number. -/
def keep (o : Overflow) (n : Int) (w : α) : Except Abort α :=
  if o = .stops ∧ Word.number w ≠ n then .error .sumOutOfRange else .ok w

/-- The sum of two words. -/
def add (o : Overflow) (a b : α) : Except Abort α :=
  o.keep (Word.number a + Word.number b) (a + b)

/-- The difference of two words. -/
def sub [Sub α] (o : Overflow) (a b : α) : Except Abort α :=
  o.keep (Word.number a - Word.number b) (a - b)

/-- The sum of some words, added up from the first one on. -/
def sum (o : Overflow) (ws : List α) : Except Abort α := ws.foldlM o.add (Word.cut 0)

end Overflow

end AdminConsole
