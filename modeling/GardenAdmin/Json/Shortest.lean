import GardenAdmin.Json.Double

/-!
# The shortest decimal of a double

`Magnitude.shortest` finds the fewest decimal digits that are nearer to the double than to any
other, and among those the nearest. `Double.render` lays them out: positional for the decimal
exponents from -5 to 15, else with one digit before the point and a signed exponent.
-/

namespace GardenAdmin.Json

/-- A decimal `digits * 10 ^ scale`. -/
structure Decimal where
  digits : Nat
  scale : Int
  deriving DecidableEq, Repr

/-- The greatest `p` with `10 ^ p ≤ n / d`, for positive `n` and `d`. -/
def floorLog10 (n d : Nat) : Int :=
  if d ≤ n then (Nat.toDigits 10 (n / d)).length - 1
  else
    let k := (Nat.toDigits 10 (d / n)).length
    if d ≤ n * Nat.pow 10 (k - 1) then -((k : Int) - 1) else -(k : Int)

namespace Magnitude

/-- The decimals that read back as one double, as bounds in quarters of its last place. -/
structure Interval where
  low : Nat
  high : Nat
  /-- The bounds themselves belong to it. -/
  closed : Bool

/-- Halfway to the neighbours on both sides; below a power of two the neighbour is nearer by half. -/
def interval (x : Magnitude) : Interval :=
  let m := x.mantissa
  let low := if m = fullMantissa ∧ minExponent < x.exponent then 4 * m - 1 else 4 * m - 2
  ⟨low, 4 * m + 2, m % 2 == 0⟩

/-- Whether `v` quarters of the last place of `x`, given as the fraction `n / d`, read back as `x`. -/
def Interval.holds (i : Interval) (n d : Nat) : Bool :=
  if i.closed then i.low * d ≤ n && n ≤ i.high * d else i.low * d < n && n < i.high * d

/-- The nearest multiple of `10 ^ scale` that reads back as `x`, if one does. -/
def onGrid? (x : Magnitude) (scale : Int) : Option Nat :=
  let (n, d) := x.toRatio
  -- x / 10 ^ scale as a fraction
  let (a, b) :=
    if 0 ≤ scale then (n, d * Nat.pow 10 scale.toNat) else (n * Nat.pow 10 (-scale).toNat, d)
  let below := a / b
  -- the distance of a candidate in quarters of the last place
  let fits (k : Nat) : Bool :=
    let (c, e) :=
      if 0 ≤ scale then (k * Nat.pow 10 scale.toNat, 1) else (k, Nat.pow 10 (-scale).toNat)
    let (p, q) := scaled (4 * c) e x.exponent
    x.interval.holds p q
  let nearBelow := 2 * (a % b) < b ∨ (2 * (a % b) = b ∧ below % 2 = 0)
  let (first, second) := if nearBelow then (below, below + 1) else (below + 1, below)
  if fits first then some first else if fits second then some second else none

/-- The first grid with a decimal that reads back, from one digit on. -/
def shortestFrom (x : Magnitude) (top : Int) : Nat → Nat → Decimal
  | 0, count => ⟨(x.onGrid? (top - count + 1)).getD 0, top - count + 1⟩
  | fuel + 1, count =>
    match x.onGrid? (top - count + 1) with
    | some k => ⟨k, top - count + 1⟩
    | none => shortestFrom x top fuel (count + 1)

/-- The shortest decimal that reads back as the positive magnitude `x`; seventeen digits always do. -/
def shortest (x : Magnitude) : Decimal :=
  x.shortestFrom (floorLog10 x.toRatio.1 x.toRatio.2) 16 1

end Magnitude

/-- The digits without zeros at the end. -/
def significant (n : Nat) : List Char :=
  ((Nat.toDigits 10 n).reverse.dropWhile (· == '0')).reverse

/-- The least and the greatest decimal exponent that is written positionally. -/
def positionalRange : Int × Int := (-5, 15)

/-- The digits `ds`, of which the first has the weight `10 ^ top`. -/
def layout (ds : List Char) (top : Int) : List Char :=
  if positionalRange.1 ≤ top ∧ top ≤ positionalRange.2 then
    if top < 0 then '0' :: '.' :: List.replicate ((-top).toNat - 1) '0' ++ ds
    else
      let whole := top.toNat + 1
      if ds.length ≤ whole then ds ++ List.replicate (whole - ds.length) '0' ++ ['.', '0']
      else ds.take whole ++ '.' :: ds.drop whole
  else
    let point := if ds.length ≤ 1 then [] else '.' :: ds.drop 1
    let sign := if top < 0 then '-' else '+'
    ds.take 1 ++ point ++ 'e' :: sign :: Nat.toDigits 10 top.natAbs

/-- The text of a double. -/
def Double.render (x : Double) : List Char :=
  let sign := if x.negative then ['-'] else []
  if x.magnitude.mantissa = 0 then sign ++ ['0', '.', '0']
  else
    let d := x.magnitude.shortest
    let all := Nat.toDigits 10 d.digits
    sign ++ layout (significant d.digits) (d.scale + (all.length - 1))

end GardenAdmin.Json
