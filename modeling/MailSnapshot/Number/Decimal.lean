import MailSnapshot.Number.Binary64

/-! Decimal numbers, the fewest decimal digits that stand for a binary64 number, and their text. -/

namespace MailSnapshot

/-- The number `± digits * 10 ^ exponent`. -/
structure Decimal where
  negative : Bool
  digits : Nat
  exponent : Int
  deriving DecidableEq

namespace Decimal

def width (n : Nat) : Nat := (Nat.toDigits 10 n).length

/-- The nearest binary64 number, unless it is out of range. The bounds on the exponent only keep
the ratio small: beyond them the answer does not depend on the digits. -/
def toBinary64 (d : Decimal) : Option Binary64 :=
  if d.digits = 0 ∨ d.exponent + width d.digits < -400 then some (.zero d.negative)
  else if 400 < d.exponent then none
  else
    let (num, den) := Binary64.scaled 10 d.digits 1 (-d.exponent)
    Binary64.ofRatio d.negative num den

/-- The power of ten of the leading digit of `num / den`, for a ratio not below `10 ^ (-330)`. -/
def magnitude (num den : Nat) : Int :=
  (width (num * Nat.pow 10 330 / den) : Int) - 331

/-- The two neighbours of a number among the decimals of `n` digits, the nearer one first. Of two
equally near ones the even one is first. -/
def neighbours (x : Binary64) (n : Nat) : List Decimal :=
  let e := magnitude x.ratio.1 x.ratio.2 - n + 1
  let (num, den) := Binary64.scaled 10 x.ratio.1 x.ratio.2 e
  let below : Decimal := ⟨x.negative, num / den, e⟩
  let above : Decimal := ⟨x.negative, num / den + 1, e⟩
  if Binary64.divRound num den = num / den then [below, above] else [above, below]

/-- The nearest of the shortest decimals that read back as the number; seventeen digits always
suffice. -/
def shortest (x : Binary64) : Decimal :=
  if x.isZero then ⟨x.negative, 0, 0⟩
  else
    ((List.range 17).findSome? fun n =>
      (neighbours x (n + 1)).find? fun d => d.toBinary64 = some x).getD ⟨x.negative, 0, 0⟩

/-- The number with so many significant digits; a half goes away from zero. -/
def rounded (n : Nat) (x : Binary64) : Decimal :=
  if x.isZero then ⟨x.negative, 0, 0⟩
  else
    let e := magnitude x.ratio.1 x.ratio.2 - n + 1
    let (num, den) := Binary64.scaled 10 x.ratio.1 x.ratio.2 e
    ⟨x.negative, (2 * num + den) / (2 * den), e⟩

/-- How decimals are written. -/
structure Style where
  /-- A decimal is written without an exponent when its leading digit stands at a power of ten from
  `lowest` to `highest`. -/
  lowest : Int
  highest : Int
  /-- A single digit keeps a point and a zero also before an exponent. -/
  keepsPoint : Bool
  /-- An exponent that is not negative has a plus sign. -/
  plus : Bool
  /-- The least number of digits of an exponent. -/
  exponentWidth : Nat
  deriving DecidableEq

namespace Style

def isPositional (s : Style) (leading : Int) : Bool :=
  decide (s.lowest ≤ leading ∧ leading ≤ s.highest)

end Style

def zeros (n : Nat) : List Char := List.replicate n '0'

def positional (ds : List Char) (leading : Int) : List Char :=
  if leading < 0 then '0' :: '.' :: zeros (-leading - 1).toNat ++ ds
  else
    let whole := leading.toNat + 1
    ds.take whole ++ zeros (whole - ds.length) ++
      if ds.length ≤ whole then ['.', '0'] else '.' :: ds.drop whole

def scientific (style : Style) (ds : List Char) (leading : Int) : List Char :=
  let fraction := ds.drop 1
  let exponent := Nat.toDigits 10 leading.natAbs
  ds.take 1 ++
    (if !fraction.isEmpty then '.' :: fraction
      else if style.keepsPoint then ['.', '0'] else []) ++
    'e' :: (if leading < 0 then ['-'] else if style.plus then ['+'] else []) ++
    zeros (style.exponentWidth - exponent.length) ++ exponent

/-- A whole number keeps one zero after its point. -/
def text (style : Style) (d : Decimal) : List Char :=
  let ds := Nat.toDigits 10 d.digits
  let leading := d.exponent + ds.length - 1
  let significant := (ds.reverse.dropWhile (· = '0')).reverse
  let magnitude :=
    if d.digits = 0 then ['0', '.', '0']
    else if style.isPositional leading then positional significant leading
    else scientific style significant leading
  if d.negative then '-' :: magnitude else magnitude

end Decimal
end MailSnapshot
