import TypedGraphQL.Number.Binary64
import TypedGraphQL.Text.Digits

namespace TypedGraphQL.Binary64

/--
The number nearest to `digits · 10 ^ exponent`.  The first two cases only keep
the powers of ten small: beyond them the result is infinite or zero anyway.
-/
def ofDecimal (negative : Bool) (digits : Nat) (exponent : Int) : Binary64 :=
  let leading := exponent + (Nat.toDigits 10 digits).length
  if digits = 0 ∨ leading < -400 then zero negative
  else if 400 < leading then infinity negative
  else ofRatio negative (digits * 10 ^ exponent.toNat) (10 ^ (-exponent).toNat)

def exponentPart? : List Char → Option Int
  | [] => some 0
  | c :: rest =>
    let (negative, digits) := Text.splitSign rest
    if (c = 'e' ∨ c = 'E') ∧ digits ≠ [] ∧ digits.all Char.isDigit then
      some (if negative then -Text.digitsValue digits else Text.digitsValue digits)
    else
      none

def unsignedText? (negative : Bool) (text : List Char) : Option Binary64 :=
  let whole := text.takeWhile Char.isDigit
  let afterWhole := text.dropWhile Char.isDigit
  let (fraction, rest) :=
    match afterWhole with
    | '.' :: afterPoint =>
      (afterPoint.takeWhile Char.isDigit, afterPoint.dropWhile Char.isDigit)
    | _ => ([], afterWhole)
  if whole = [] ∧ fraction = [] then none
  else
    (exponentPart? rest).map fun exponent =>
      ofDecimal negative (Text.digitsValue (whole ++ fraction))
        (exponent - fraction.length)

def ofText? (text : String) : Option Binary64 :=
  let (negative, rest) := Text.splitSign text.toList
  let word := rest.map Char.toLower
  if word = ['i', 'n', 'f'] ∨ word = ['i', 'n', 'f', 'i', 'n', 'i', 't', 'y'] then
    some (infinity negative)
  else if word = ['n', 'a', 'n'] then
    some (ofFields negative nan.magnitude)
  else
    unsignedText? negative rest

end TypedGraphQL.Binary64
