import TypedGraphQL.Text.Digits

namespace TypedGraphQL

structure Binary64 where
  bits : UInt64
deriving DecidableEq, Repr, Inhabited

namespace Binary64

def ofFields (negative : Bool) (magnitude : Nat) : Binary64 :=
  ⟨(if negative then 2 ^ 63 + magnitude else magnitude).toUInt64⟩

def isNegative (x : Binary64) : Bool :=
  x.bits.toNat ≥ 2 ^ 63

/-- The bits without the sign; they grow with the absolute value. -/
def magnitude (x : Binary64) : Nat :=
  x.bits.toNat % 2 ^ 63

def infiniteMagnitude : Nat :=
  2047 * 2 ^ 52

def isFinite (x : Binary64) : Bool :=
  x.magnitude < infiniteMagnitude

def isNaN (x : Binary64) : Bool :=
  x.magnitude > infiniteMagnitude

def nan : Binary64 :=
  ofFields false (infiniteMagnitude + 2 ^ 51)

def infinity (negative : Bool) : Binary64 :=
  ofFields negative infiniteMagnitude

def zero (negative : Bool) : Binary64 :=
  ofFields negative 0

def negate (x : Binary64) : Binary64 :=
  ofFields (!x.isNegative) x.magnitude

/-- Numeric equality: a NaN differs from itself and the zeros are equal. -/
def sameNumber (x y : Binary64) : Bool :=
  !x.isNaN && !y.isNaN && (x == y || (x.magnitude == 0 && y.magnitude == 0))

/-- A finite number is `±significand · 2 ^ exponent`. -/
def significand (x : Binary64) : Nat :=
  if x.magnitude < 2 ^ 52 then x.magnitude
  else x.magnitude % 2 ^ 52 + 2 ^ 52

def exponent (x : Binary64) : Int :=
  if x.magnitude < 2 ^ 52 then -1074
  else x.magnitude / 2 ^ 52 - 1075

/-- `floor (log2 (numerator / denominator))` for positive arguments. -/
def ratioLog2 (numerator denominator : Nat) : Int :=
  let estimate : Int := (Nat.log2 numerator : Int) - Nat.log2 denominator
  if numerator * 2 ^ (-estimate).toNat < denominator * 2 ^ estimate.toNat then
    estimate - 1
  else
    estimate

def roundedQuotient (numerator denominator : Nat) : Nat :=
  let quotient := numerator / denominator
  let remainder := numerator % denominator
  if 2 * remainder < denominator then quotient
  else if denominator < 2 * remainder then quotient + 1
  else quotient + quotient % 2

/--
The number nearest to `numerator / denominator`; the bits of the exponent and
of the significand add up, so a carry out of the significand is no special case.
-/
def ofRatio (negative : Bool) (numerator denominator : Nat) : Binary64 :=
  if numerator = 0 then zero negative
  else
    let exponent := max (ratioLog2 numerator denominator - 52) (-1074)
    let rounded := roundedQuotient (numerator * 2 ^ (-exponent).toNat)
      (denominator * 2 ^ exponent.toNat)
    let magnitude := (exponent + 1074).toNat * 2 ^ 52 + rounded
    ofFields negative (min magnitude infiniteMagnitude)

def ofNat (n : Nat) : Binary64 :=
  ofRatio false n 1

def ofInt (n : Int) : Binary64 :=
  ofRatio (n < 0) n.natAbs 1

def numerator (x : Binary64) : Nat :=
  x.significand * 2 ^ x.exponent.toNat

def denominator (x : Binary64) : Nat :=
  2 ^ (-x.exponent).toNat

def scaleUp (x : Binary64) (factor : Nat) : Binary64 :=
  let rounded := ofNat factor
  ofRatio x.isNegative (x.numerator * rounded.numerator)
    (x.denominator * rounded.denominator)

def scaleDown (x : Binary64) (divisor : Nat) : Binary64 :=
  let rounded := ofNat divisor
  ofRatio x.isNegative (x.numerator * rounded.denominator)
    (x.denominator * rounded.numerator)

end Binary64

end TypedGraphQL
