/-! The binary64 numbers, and rounding an exact ratio to one of them. -/

namespace MailSnapshot

/-- The number `± mantissa * 2 ^ exponent`. The two zeros differ in sign alone. The least number
above all finite ones stands for infinity. -/
structure Binary64 where
  negative : Bool
  mantissa : Nat
  exponent : Int
  deriving DecidableEq

namespace Binary64

/-- The nearest integer to `num / den`; a half goes to the even neighbour. -/
def divRound (num den : Nat) : Nat :=
  let q := num / den
  let r := 2 * (num % den)
  if r < den then q else if den < r then q + 1 else q + q % 2

def zero (negative : Bool) : Binary64 := ⟨negative, 0, -1074⟩

/-- The highest exponent of a finite number. -/
def maxExponent : Int := 971

def infinity (negative : Bool) : Binary64 := ⟨negative, Nat.pow 2 52, maxExponent + 1⟩

def isInfinite (x : Binary64) : Bool := decide (maxExponent < x.exponent)

/-- The ratio `num / den` divided by `base ^ e`. -/
def scaled (base num den : Nat) (e : Int) : Nat × Nat :=
  (num * Nat.pow base (-e).toNat, den * Nat.pow base e.toNat)

/-- The exponent at which the mantissa of `num / den` has 53 digits, but at least the lowest. -/
def exponentFor (num den : Nat) : Int :=
  let low : Int := num.log2 - den.log2 - 53
  let (n, d) := scaled 2 num den low
  max (-1074) (if n / d < Nat.pow 2 53 then low else low + 1)

/-- The number nearest to `num / den`, unless that lies beyond the largest one. -/
def ofRatio (negative : Bool) (num den : Nat) : Option Binary64 :=
  if num = 0 then some (zero negative)
  else
    let e := exponentFor num den
    let (n, d) := scaled 2 num den e
    let m := divRound n d
    let x : Binary64 :=
      if m = Nat.pow 2 53 then ⟨negative, Nat.pow 2 52, e + 1⟩ else ⟨negative, m, e⟩
    if x.isInfinite then none else some x

/-- The magnitude, as numerator and denominator. -/
def ratio (x : Binary64) : Nat × Nat :=
  (x.mantissa * Nat.pow 2 x.exponent.toNat, Nat.pow 2 (-x.exponent).toNat)

def isZero (x : Binary64) : Bool := x.mantissa == 0

def neg (x : Binary64) : Binary64 := { x with negative := !x.negative }

def mul (x y : Binary64) : Option Binary64 :=
  ofRatio (x.negative != y.negative) (x.ratio.1 * y.ratio.1) (x.ratio.2 * y.ratio.2)

/-- The quotient by a number other than zero. -/
def div (x y : Binary64) : Option Binary64 :=
  ofRatio (x.negative != y.negative) (x.ratio.1 * y.ratio.2) (x.ratio.2 * y.ratio.1)

end Binary64
end MailSnapshot
