import TypedGraphQL.Json.Basic
import TypedGraphQL.Json.Fault
import TypedGraphQL.Text.Digits

namespace TypedGraphQL.Json

inductive NumeralPhase where
  | sign
  | zero
  | whole (significand : Nat)
  | longWhole (significand dropped : Nat)
  | point (significand : Nat) (exponent : Int)
  | fraction (significand : Nat) (exponent : Int)
  | longFraction (significand : Nat) (exponent : Int)
  | mark (significand : Nat) (exponent : Int)
  | markSign (significand : Nat) (exponent : Int) (down : Bool)
  | power (significand : Nat) (exponent : Int) (down : Bool) (value : Nat)
  | vanished
deriving DecidableEq, Repr

structure Numeral where
  negative : Bool
  phase : NumeralPhase
deriving DecidableEq, Repr

def maxSignificand : Nat := 2 ^ 64 - 1

def maxPower : Nat := 2 ^ 31 - 1

/--
The significand as a floating-point number, multiplied or divided by the power
of ten; `none` when the product is too great.  Two divisions take any
significand below the smallest number.
-/
def scaled (negative : Bool) (significand : Nat) (exponent : Int) :
    Option Binary64 :=
  let start := Binary64.ofRatio negative significand 1
  if significand = 0 then some start
  else if 308 < exponent then none
  else if 0 ≤ exponent then
    let product := start.scaleUp (10 ^ exponent.toNat)
    if product.isFinite then some product else none
  else if -308 ≤ exponent then some (start.scaleDown (10 ^ (-exponent).toNat))
  else if -616 ≤ exponent then
    some ((start.scaleDown (10 ^ 308)).scaleDown (10 ^ (-exponent - 308).toNat))
  else some (Binary64.zero negative)

namespace NumeralPhase

def fractionDigit (significand : Nat) (exponent : Int) (c : Char) : NumeralPhase :=
  let extended := significand * 10 + Text.digitValue c
  if extended ≤ maxSignificand then .fraction extended (exponent - 1)
  else .longFraction significand exponent

def tail? (significand : Nat) (exponent : Int) (c : Char) : Option NumeralPhase :=
  if c = '.' then some (.point significand exponent)
  else if c = 'e' ∨ c = 'E' then some (.mark significand exponent)
  else none

def powerDigit (significand : Nat) (exponent : Int) (down : Bool) (value : Nat)
    (c : Char) : Except FaultKind NumeralPhase :=
  let extended := value * 10 + Text.digitValue c
  if extended ≤ maxPower then .ok (.power significand exponent down extended)
  else if significand ≠ 0 ∧ !down then .error .numberOutOfRange
  else .ok .vanished

def next? (phase : NumeralPhase) (c : Char) : Except FaultKind (Option NumeralPhase) :=
  match phase with
  | sign =>
    if c = '0' then .ok (some .zero)
    else if c.isDigit then .ok (some (.whole (Text.digitValue c)))
    else .error .invalidNumber
  | zero =>
    if c.isDigit then .error .invalidNumber
    else .ok (tail? 0 0 c)
  | whole significand =>
    if c.isDigit then
      let extended := significand * 10 + Text.digitValue c
      if extended ≤ maxSignificand then .ok (some (.whole extended))
      else .ok (some (.longWhole significand 1))
    else .ok (tail? significand 0 c)
  | longWhole significand dropped =>
    if c.isDigit then .ok (some (.longWhole significand (dropped + 1)))
    else .ok (tail? significand dropped c)
  | point significand exponent =>
    if c.isDigit then .ok (some (fractionDigit significand exponent c))
    else .error .invalidNumber
  | fraction significand exponent =>
    if c.isDigit then .ok (some (fractionDigit significand exponent c))
    else if c = 'e' ∨ c = 'E' then .ok (some (.mark significand exponent))
    else .ok none
  | longFraction significand exponent =>
    if c.isDigit then .ok (some (.longFraction significand exponent))
    else if c = 'e' ∨ c = 'E' then .ok (some (.mark significand exponent))
    else .ok none
  | mark significand exponent =>
    if c = '+' then .ok (some (.markSign significand exponent false))
    else if c = '-' then .ok (some (.markSign significand exponent true))
    else if c.isDigit then
      .ok (some (.power significand exponent false (Text.digitValue c)))
    else .error .invalidNumber
  | markSign significand exponent down =>
    if c.isDigit then .ok (some (.power significand exponent down (Text.digitValue c)))
    else .error .invalidNumber
  | power significand exponent down value =>
    if c.isDigit then some <$> powerDigit significand exponent down value c
    else .ok none
  | vanished =>
    if c.isDigit then .ok (some .vanished) else .ok none

end NumeralPhase

namespace Numeral

def ofScaled (negative : Bool) (significand : Nat) (exponent : Int) :
    Except FaultKind Number :=
  match scaled negative significand exponent with
  | some value => .ok (.float value)
  | none => .error .numberOutOfRange

/-- A negative whole number below the signed range, and minus zero, is a float. -/
def ofWhole (negative : Bool) (significand : Nat) : Number :=
  if !negative then .integer significand
  else if significand = 0 ∨ 2 ^ 63 < significand then
    .float (Binary64.ofRatio true significand 1)
  else .integer (-significand)

def value (numeral : Numeral) : Except FaultKind Number :=
  match numeral.phase with
  | .zero => .ok (ofWhole numeral.negative 0)
  | .whole significand => .ok (ofWhole numeral.negative significand)
  | .longWhole significand dropped => ofScaled numeral.negative significand dropped
  | .fraction significand exponent
  | .longFraction significand exponent =>
    ofScaled numeral.negative significand exponent
  | .power significand exponent down value =>
    ofScaled numeral.negative significand
      (if down then exponent - value else exponent + value)
  | .vanished => .ok (.float (Binary64.zero numeral.negative))
  | .sign | .point .. | .mark .. | .markSign .. => .error .endInValue

end Numeral

end TypedGraphQL.Json
