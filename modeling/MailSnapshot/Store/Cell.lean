import MailSnapshot.Number.Decimal
import MailSnapshot.Store.Truth
import MailSnapshot.Text.Utf8

/-! The cells of stored rows: how they compare, in which order they are read, and how their real
numbers are written. -/

namespace MailSnapshot

/-- A column may hold any kind of cell, whatever its declared type. -/
inductive Cell where
  | null
  | integer (n : Int)
  | real (x : Binary64)
  | text (s : String)
  /-- Bytes stored as text that are not UTF-8. -/
  | rawText (bytes : List UInt8)
  | blob (bytes : List UInt8)
  deriving DecidableEq

namespace Cell

inductive Kind where
  | null
  | integer
  | real
  | text
  | blob
  deriving DecidableEq

def kind : Cell → Kind
  | null => .null
  | integer _ => .integer
  | real _ => .real
  | text _ | rawText _ => .text
  | blob _ => .blob

/-- A cell stored as text with these bytes. -/
def ofText (bytes : List UInt8) : Cell :=
  match Text.Utf8.decode bytes with
  | .ok s => text s
  | .error _ => rawText bytes

/-- The text of a cell that can be read as text. -/
def text? : Cell → Option String
  | text s => some s
  | _ => none

/-- An integer, or a real number as numerator and denominator. -/
def number? : Cell → Option (Int × Nat)
  | integer n => some (n, 1)
  | real x =>
    let (num, den) := x.ratio
    some (if x.negative then -num else num, den)
  | _ => none

/-- Real numbers are positional from 1e-4 and below 1e16. -/
def realStyle : Decimal.Style := ⟨-4, 15, false, false, 1⟩

def realText (x : Binary64) : String :=
  if x.isInfinite then if x.negative then "-inf" else "inf"
  else String.ofList ((Decimal.shortest x).text realStyle)

/-- The bytes of a text or a blob. -/
def bytes : Cell → List UInt8
  | text s => Text.Utf8.encode s
  | rawText b | blob b => b
  | _ => []

/-- Numbers compare by value, whatever their kind. A text, a blob and a number always differ. -/
def same (a b : Cell) : Bool :=
  match a.number?, b.number? with
  | some (n, d), some (m, e) => n * e = m * d
  | _, _ => a = b

/-- Equality of cells; a null equals nothing and differs from nothing. -/
def eq (a b : Cell) : Truth :=
  if a = null ∨ b = null then .unknown else .ofBool (a.same b)

/-- A cell is among the cells of a list. -/
def isIn (a : Cell) (bs : List Cell) : Truth :=
  bs.foldr (fun b t => (a.eq b).or t) .no

def notIn (a : Cell) (bs : List Cell) : Truth := (a.isIn bs).not

/-- Nulls come first, then numbers, then texts, then blobs. -/
def rank : Kind → Nat
  | .null => 0
  | .integer | .real => 1
  | .text => 2
  | .blob => 3

/-- The order in which rows are read: inside a kind by value. -/
def comesBefore (a b : Cell) : Bool :=
  if rank a.kind = rank b.kind then
    match a.number?, b.number? with
    | some (n, d), some (m, e) => n * e < m * d
    | _, _ => decide (a.bytes < b.bytes)
  else rank a.kind < rank b.kind

end Cell
end MailSnapshot
