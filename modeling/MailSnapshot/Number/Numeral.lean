import MailSnapshot.Number.Decimal

/-! Reading decimal numerals: signs, runs of digits, exponents, and whole numerals. -/

namespace MailSnapshot.Numeral

def digitValue (c : Char) : Nat := c.toNat - '0'.toNat

def natOf (ds : List Char) : Nat := ds.foldl (fun n d => 10 * n + digitValue d) 0

def takeDigits (s : List Char) : List Char × List Char := s.span Char.isDigit

def readSign : List Char → Bool × List Char
  | '-' :: r => (true, r)
  | '+' :: r => (false, r)
  | s => (false, s)

/-- An exponent may be missing, but not its digits. -/
def readExponent : List Char → Option (Option Int × List Char)
  | c :: r =>
    if c = 'e' ∨ c = 'E' then
      let (negative, r) := readSign r
      let (ds, r) := takeDigits r
      let n : Int := natOf ds
      if ds.isEmpty then none else some (some (if negative then -n else n), r)
    else some (none, c :: r)
  | [] => some (none, [])

/-- The digits after a point; point and digits may be missing. -/
def readPoint : List Char → List Char × List Char
  | '.' :: r => takeDigits r
  | s => ([], s)

/-- The number that a whole text spells. Digits stand before the point, after it, or both. -/
def read? (s : List Char) : Option Decimal := do
  let (negative, s) := readSign s
  let (whole, s) := takeDigits s
  let (fraction, s) := readPoint s
  let (exponent, s) ← readExponent s
  guard (!(whole ++ fraction).isEmpty && s.isEmpty)
  return ⟨negative, natOf (whole ++ fraction), exponent.getD 0 - fraction.length⟩

/-- The integer that a whole text spells with a sign and digits alone. -/
def readInteger? (s : List Char) : Option Int := do
  let (negative, s) := readSign s
  let (ds, s) := takeDigits s
  guard (!ds.isEmpty && s.isEmpty)
  return if negative then -(natOf ds : Int) else natOf ds

end MailSnapshot.Numeral
