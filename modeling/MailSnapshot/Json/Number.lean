import MailSnapshot.Json.Basic
import MailSnapshot.Number.Numeral

/-! Numbers in JSON text. Whole numbers that fit 64 bits stay whole. Any other number is read from
the leading digits that fit 64 bits, scaled by rounded powers of ten. -/

namespace MailSnapshot.Json
open Numeral

/-- A number as it is written. -/
structure NumberText where
  negative : Bool
  whole : List Char
  fraction : List Char
  exponent : Option Int

namespace NumberText

/-- Appends digits to a number while it stays below `2 ^ 64`; also how many digits are left. -/
def appendDigits (n : Nat) : List Char → Nat × Nat
  | [] => (n, 0)
  | d :: ds =>
    let next := 10 * n + digitValue d
    if next < Nat.pow 2 64 then appendDigits next ds else (n, ds.length + 1)

def powerOfTen (n : Nat) : Option Binary64 := Binary64.ofRatio false (Nat.pow 10 n) 1

/-- The largest power of ten that a number is scaled by at once. -/
def maxStep : Nat := 308

/-- Divides so many times by the largest step. -/
def divideSteps : Nat → Binary64 → Option Binary64
  | 0, x => some x
  | n + 1, x =>
    if x.isZero then some x
    else do
      let p ← powerOfTen maxStep
      divideSteps n (← x.div p)

/-- The number times `10 ^ e`, rounded after each step. -/
def scale (x : Binary64) (e : Int) : Option Binary64 := do
  if 0 ≤ e then
    if e ≤ maxStep then x.mul (← powerOfTen e.toNat)
    else if x.isZero then return x
    else none
  else
    let steps := (e.natAbs - 1) / maxStep
    let y ← divideSteps steps x
    y.div (← powerOfTen (e.natAbs - maxStep * steps))

def double (t : NumberText) : Option Binary64 :=
  let (n, extra) := appendDigits 0 t.whole
  let (m, dropped) := appendDigits n t.fraction
  let e : Int := extra - (t.fraction.length - dropped : Nat) + t.exponent.getD 0
  (Binary64.ofRatio false m 1).bind fun x =>
    (scale x e).map fun y => if t.negative then y.neg else y

def isWhole (t : NumberText) : Bool := t.fraction.isEmpty && t.exponent.isNone

def value (t : NumberText) : Option Json :=
  let n := natOf t.whole
  if t.isWhole && !t.negative && n < Nat.pow 2 64 then some (.int n)
  else if t.isWhole && t.negative && 0 < n && n ≤ Nat.pow 2 63 then some (.int (-n))
  else t.double.map .double

end NumberText

/-- The digits after a point, when a point comes next. -/
def readFraction : List Char → Option (List Char × List Char)
  | '.' :: r =>
    let (ds, r) := takeDigits r
    if ds.isEmpty then none else some (ds, r)
  | s => some ([], s)

/-- The digits before the point; a zero stands alone. -/
def readWhole (s : List Char) : Option (List Char × List Char) :=
  match takeDigits s with
  | ([], _) => none
  | (['0'], r) => some (['0'], r)
  | ('0' :: _, _) => none
  | (ds, r) => some (ds, r)

def readNumberText (s : List Char) : Option (NumberText × List Char) := do
  let (negative, s) := match s with
    | '-' :: r => (true, r)
    | s => (false, s)
  let (whole, s) ← readWhole s
  let (fraction, s) ← readFraction s
  let (exponent, s) ← readExponent s
  return (⟨negative, whole, fraction, exponent⟩, s)

def readNumber (s : List Char) : Option (Json × List Char) := do
  let (t, r) ← readNumberText s
  return (← t.value, r)

end MailSnapshot.Json
