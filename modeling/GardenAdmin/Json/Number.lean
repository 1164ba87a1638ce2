import GardenAdmin.Json.Shortest
import GardenAdmin.Text.Integer

/-!
# JSON numbers

A number literal without fraction and exponent that fits 64 bits, signed or unsigned, is that
integer. Any other literal is a double, `-0` among them, or nothing if it is beyond the doubles.
-/

namespace GardenAdmin.Json

open GardenAdmin.Text (minInt64 maxNat64)

inductive Number where
  | int (n : Int)
  | double (x : Double)
  deriving DecidableEq, Repr

/-- The text of a number. -/
def Number.render : Number → List Char
  | .int n => (toString n).toList
  | .double x => x.render

/-- A number as it is written: the digits before and after the point and the exponent. -/
structure Literal where
  negative : Bool
  whole : List Nat
  fraction : List Nat
  exponent : Int
  /-- It has neither a fraction nor an exponent. -/
  integral : Bool
  deriving DecidableEq, Repr

namespace Literal

/-- The longest front of `digits` whose value, read on from `acc`, fits 64 bits, with its value and
the number of digits left over. -/
def fit (acc : Nat) : List Nat → Nat × Nat
  | [] => (acc, 0)
  | d :: ds => if 10 * acc + d ≤ maxNat64 then fit (10 * acc + d) ds else (acc, ds.length + 1)

/-- The digits that count towards the value, and the power of ten that goes with them. Digits that
would not fit 64 bits are dropped from the end of the whole part and from that of the fraction. -/
def scaled (l : Literal) : Nat × Int :=
  let (w, dropped) := fit 0 l.whole
  let (v, rest) := fit w l.fraction
  (v, (dropped : Int) - ((l.fraction.length : Int) - rest) + l.exponent)

/-- The number a literal stands for. -/
def number? (l : Literal) : Option Number :=
  let (v, dropped) := fit 0 l.whole
  let isInt := l.integral && dropped == 0 && (!l.negative || (v != 0 && minInt64 ≤ -(v : Int)))
  if isInt then some (.int (if l.negative then -(v : Int) else v))
  else
    let (digits, scale) := l.scaled
    (Double.ofDecimal? l.negative digits scale).map .double

end Literal

end GardenAdmin.Json
