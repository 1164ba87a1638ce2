/-!
# Doubles

A finite double is a sign and a magnitude `mantissa * 2 ^ exponent`, held in its one canonical
form: the mantissa has 53 bits, or fewer at the least exponent. All arithmetic is exact on natural
numbers and rounded once, to the nearest double and to the even one of two equally near.

`Double.ofDecimal?` reads a decimal in two roundings: the digits become a double, which is then
multiplied or divided by the double nearest to the power of ten.
-/

namespace GardenAdmin.Json

/-- `n / d` rounded to the nearest integer, a half to the even one. -/
def roundDiv (n d : Nat) : Nat :=
  let q := n / d
  let r := n % d
  if 2 * r < d then q else if d < 2 * r then q + 1 else if q % 2 = 0 then q else q + 1

/-- The size of a double: `mantissa * 2 ^ exponent`. -/
structure Magnitude where
  mantissa : Nat
  exponent : Int
  deriving DecidableEq, Repr

namespace Magnitude

/-- The least exponent, that of the subnormal doubles. -/
def minExponent : Int := -1074

/-- The greatest exponent of a finite double. -/
def maxExponent : Int := 971

def zero : Magnitude := ⟨0, minExponent⟩

/-- The least mantissa of full precision. -/
def fullMantissa : Nat := Nat.pow 2 52

/-- `n / d * 2 ^ (-e)` as a fraction of natural numbers. -/
def scaled (n d : Nat) (e : Int) : Nat × Nat :=
  if 0 ≤ e then (n, d <<< e.toNat) else (n <<< (-e).toNat, d)

/-- The greatest `k` with `2 ^ k ≤ n / d`, for positive `n` and `d`. -/
def floorLog2 (n d : Nat) : Int :=
  let k : Int := (Nat.log2 n : Int) - (Nat.log2 d : Int)
  let (a, b) := scaled n d k
  if b ≤ a then k else k - 1

/-- The magnitude nearest to `n / d`. -/
def ofRatio (n d : Nat) : Magnitude :=
  if n = 0 then zero
  else
    let e := max (floorLog2 n d - 52) minExponent
    let (a, b) := scaled n d e
    let m := roundDiv a b
    if m = 2 * fullMantissa then ⟨fullMantissa, e + 1⟩ else ⟨m, e⟩

/-- The exact value as a fraction. -/
def toRatio (x : Magnitude) : Nat × Nat :=
  if 0 ≤ x.exponent then (x.mantissa <<< x.exponent.toNat, 1)
  else (x.mantissa, 1 <<< (-x.exponent).toNat)

def mul (x y : Magnitude) : Magnitude :=
  ofRatio (x.toRatio.1 * y.toRatio.1) (x.toRatio.2 * y.toRatio.2)

def div (x y : Magnitude) : Magnitude :=
  ofRatio (x.toRatio.1 * y.toRatio.2) (x.toRatio.2 * y.toRatio.1)

/-- The magnitude unless it is beyond the greatest double. -/
def finite? (x : Magnitude) : Option Magnitude :=
  if x.exponent ≤ maxExponent then some x else none

/-- The magnitude nearest to `10 ^ k`. -/
def tenPow (k : Nat) : Magnitude := ofRatio (Nat.pow 10 k) 1

/-- The greatest power of ten that is a double. -/
def maxTenPow : Nat := 308

/-- `digits * 10 ^ scale`; `none` beyond the greatest double. Below the least power of ten the
division is made in two steps, and below twice that nothing is left. -/
def ofDecimal? (digits : Nat) (scale : Int) : Option Magnitude :=
  let f := ofRatio digits 1
  if 0 ≤ scale then
    if scale.toNat ≤ maxTenPow then (f.mul (tenPow scale.toNat)).finite?
    else if digits = 0 then some zero
    else none
  else
    let k := (-scale).toNat
    if k ≤ maxTenPow then some (f.div (tenPow k))
    else if k ≤ 2 * maxTenPow then some ((f.div (tenPow maxTenPow)).div (tenPow (k - maxTenPow)))
    else some zero

end Magnitude

/-- A finite double. Zero has a sign. -/
structure Double where
  negative : Bool
  magnitude : Magnitude
  deriving DecidableEq, Repr

/-- `digits * 10 ^ scale` with a sign. -/
def Double.ofDecimal? (negative : Bool) (digits : Nat) (scale : Int) : Option Double :=
  (Magnitude.ofDecimal? digits scale).map (⟨negative, ·⟩)

end GardenAdmin.Json
