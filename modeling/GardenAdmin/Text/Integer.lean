/-!
# Decimal integers

A written integer is an optional sign and at least one ASCII digit; leading zeros are allowed.
`int64?` and `nat64?` also hold the value to a 64-bit range.
-/

namespace GardenAdmin.Text

/-- The value of an ASCII digit. -/
def digit? (c : Char) : Option Nat :=
  if '0' ≤ c ∧ c ≤ '9' then some (c.toNat - '0'.toNat) else none

/-- The value of a run of digits read after a number with value `acc`. -/
def digitsFrom? (acc : Nat) : List Char → Option Nat
  | [] => some acc
  | c :: cs => do digitsFrom? (10 * acc + (← digit? c)) cs

/-- The value of one or more digits. -/
def digits? : List Char → Option Nat
  | [] => none
  | cs => digitsFrom? 0 cs

def maxInt64 : Int := 9223372036854775807
def minInt64 : Int := -9223372036854775808
def maxNat64 : Nat := 18446744073709551615

/-- The integer within the signed 64-bit range. -/
def int64Range? (n : Int) : Option Int :=
  if minInt64 ≤ n ∧ n ≤ maxInt64 then some n else none

/-- Reads a signed 64-bit integer. -/
def int64? (s : String) : Option Int :=
  match s.toList with
  | '+' :: cs => digits? cs >>= fun n => int64Range? n
  | '-' :: cs => digits? cs >>= fun n => int64Range? (-n)
  | cs => digits? cs >>= fun n => int64Range? n

/-- Reads an unsigned 64-bit integer; a plus sign is allowed. -/
def nat64? (s : String) : Option Nat :=
  match s.toList with
  | '+' :: cs => digits? cs >>= inRange
  | cs => digits? cs >>= inRange
where
  inRange (n : Nat) : Option Nat := if n ≤ maxNat64 then some n else none

end GardenAdmin.Text
