import MailSnapshot.Number.Numeral
import MailSnapshot.Store.Table

/-! The types of columns. A strict store fits every cell to the type of its column where the cell
allows it; blobs and nulls stay as they are. -/

namespace MailSnapshot

inductive ColumnType where
  | integer
  | text
  deriving DecidableEq

/-- The types of a table's columns, in their order. -/
def Table.columnTypes : Table → List ColumnType
  | projects => [.integer, .text, .text]
  | agents => [.integer, .integer, .text]
  | messages => [.integer, .integer, .integer, .text, .text, .text, .integer]
  | recipients => [.integer, .integer, .text, .text]
  | reservations => [.integer, .integer, .integer, .text]
  | links => [.integer, .integer, .integer, .integer, .integer]
  | suggestions => [.integer, .integer, .integer]

namespace Cell

/-- Integers have 64 bits. -/
def isInRange (n : Int) : Bool := decide (-(Nat.pow 2 63 : Nat) ≤ n ∧ n < (Nat.pow 2 63 : Nat))

/-- The integer that a real number is. The two ends of the range are left out. -/
def integerOf? (x : Binary64) : Option Int :=
  let (num, den) := x.ratio
  if num % den = 0 ∧ num / den < Nat.pow 2 63 - 1 then
    some (if x.negative then -(num / den : Nat) else (num / den : Nat))
  else none

/-- A real number, or the integer that it is. -/
def ofReal (x : Binary64) : Cell := ((integerOf? x).map integer).getD (.real x)

/-- The blanks that may stand around a number. -/
def isNumberBlank (c : Char) : Bool := c = ' ' || ('\t' ≤ c && c ≤ '\r')

def trimNumber (s : List Char) : List Char :=
  ((s.dropWhile isNumberBlank).reverse.dropWhile isNumberBlank).reverse

/-- The number that a text spells. An integer beyond 64 bits is a real number. -/
def numberOf? (s : String) : Option Cell := do
  let t := trimNumber s.toList
  let d ← Numeral.read? t
  match (Numeral.readInteger? t).filter isInRange with
  | some n => return .integer n
  | none => return ofReal (d.toBinary64.getD (.infinity d.negative))

/-- Texts of numbers have at most fifteen digits. -/
def storedStyle : Decimal.Style := ⟨-4, 14, true, true, 2⟩

/-- A real number as a text column holds it. Zero has no sign there. -/
def storedText (x : Binary64) : String :=
  if x.isInfinite then if x.negative then "-Inf" else "Inf"
  else
    let unsigned := { x with negative := x.negative && !x.isZero }
    String.ofList ((Decimal.rounded 15 unsigned).text storedStyle)

/-- The cell as a column of a type holds it. -/
def fit : ColumnType → Cell → Cell
  | .integer, .real x => ofReal x
  | .integer, .text s => (numberOf? s).getD (.text s)
  | .text, .integer n => .text (toString n)
  | .text, .real x => .text (storedText x)
  | _, c => c

end Cell
end MailSnapshot
