import Mathlib.Data.Rat.Floor

namespace LagrangeDb.Js

/-! Numbers of the language: the finite binary64 values as rationals, and the
rounding of an exact result to one of them.  Positive and negative zero are
one value. -/

inductive Number where
  | nan
  | infinite (negative : Bool)
  | finite (value : ℚ)
deriving DecidableEq

namespace Number

def leadingExponent (numerator denominator : Nat) : Int :=
  let guess : Int := numerator.log2 - denominator.log2
  if (2 : ℚ) ^ guess * denominator ≤ numerator then guess else guess - 1

/-- The exponent of the last of the 53 bits a value is kept with. -/
def unitExponent (value : ℚ) : Int := max (leadingExponent value.num.natAbs value.den - 52) (-1074)

def roundHalfEven (value : ℚ) : Int :=
  let floor := value.floor
  let rest := value - floor
  if rest < 1 / 2 then floor
  else if 1 / 2 < rest then floor + 1
  else if floor % 2 = 0 then floor
  else floor + 1

def round (value : ℚ) : Number :=
  if value = 0 then .finite 0
  else
    let unit := (2 : ℚ) ^ unitExponent value
    let rounded := roundHalfEven (value / unit) * unit
    if 2 ^ 1024 ≤ |rounded| then .infinite (rounded < 0)
    else .finite rounded

def ofInt (value : Int) : Number := round value

def negate : Number → Number
  | nan => nan
  | infinite negative => infinite !negative
  | finite value => finite (-value)

def add : Number → Number → Number
  | nan, _ => nan
  | _, nan => nan
  | infinite left, infinite right => if left = right then infinite left else nan
  | infinite left, finite _ => infinite left
  | finite _, infinite right => infinite right
  | finite left, finite right => round (left + right)

def subtract (left right : Number) : Number := left.add right.negate

def multiply : Number → Number → Number
  | nan, _ => nan
  | _, nan => nan
  | infinite left, infinite right => infinite (left != right)
  | infinite left, finite right => if right = 0 then nan else infinite (left != decide (right < 0))
  | finite left, infinite right => if left = 0 then nan else infinite (right != decide (left < 0))
  | finite left, finite right => round (left * right)

def divide : Number → Number → Number
  | nan, _ => nan
  | _, nan => nan
  | infinite _, infinite _ => nan
  | infinite left, finite right => infinite (left != decide (right < 0))
  | finite _, infinite _ => finite 0
  | finite left, finite right =>
    if right = 0 then if left = 0 then nan else infinite (left < 0)
    else round (left / right)

def truncate : Number → Number
  | finite value => finite (if value < 0 then -(-value).floor else value.floor)
  | other => other

/-- The remainder keeps the sign of the dividend. -/
def remainder : Number → Number → Number
  | finite left, finite right =>
    if right = 0 then nan
    else
      match truncate (.finite (left / right)) with
      | finite quotient => finite (left - right * quotient)
      | _ => nan
  | finite left, infinite _ => finite left
  | _, _ => nan

def isInteger : Number → Bool
  | finite value => value.den = 1
  | _ => false

def equals : Number → Number → Bool
  | nan, _ => false
  | left, right => left = right

def less : Number → Number → Bool
  | nan, _ => false
  | _, nan => false
  | infinite left, infinite right => left && !right
  | infinite left, finite _ => left
  | finite _, infinite right => !right
  | finite left, finite right => left < right

def lessOrEqual (left right : Number) : Bool := left.less right || left.equals right

def maximum : Number → Number → Number
  | nan, _ => nan
  | _, nan => nan
  | left, right => if left.less right then right else left

def increment (value : Number) : Number := value.add (.finite 1)

end Number

end LagrangeDb.Js
