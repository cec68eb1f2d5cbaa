import TypedGraphQL.Number.Binary64
import TypedGraphQL.Text.Digits

namespace TypedGraphQL.Binary64

/-!
The shortest decimal that reads back as a given number, found in exact
arithmetic: of all decimals with the fewest digits inside the number's rounding
interval, the one nearest to it, the greater one on a tie.
-/

structure Decimal where
  digits : Nat
  exponent : Int
deriving DecidableEq, Repr

def ratioLog10 (numerator denominator : Nat) : Int :=
  let estimate : Int := (ratioLog2 numerator denominator * 1233) / 4096
  let reaches (power : Int) : Bool :=
    denominator * 10 ^ power.toNat ≤ numerator * 10 ^ (-power).toNat
  if reaches (estimate + 1) then estimate + 1
  else if reaches estimate then estimate
  else estimate - 1

/-- The decimals that read back as a number lie between two quarter steps around it. -/
structure RoundingInterval where
  lower : Nat
  value : Nat
  upper : Nat
  denominator : Nat
  closed : Bool

def roundingInterval (x : Binary64) : RoundingInterval :=
  let scale := 2 ^ x.exponent.toNat
  let below := if x.significand = 2 ^ 52 ∧ -1074 < x.exponent then 1 else 2
  { lower := (4 * x.significand - below) * scale
    value := 4 * x.significand * scale
    upper := (4 * x.significand + 2) * scale
    denominator := 4 * 2 ^ (-x.exponent).toNat
    closed := x.significand % 2 = 0 }

namespace RoundingInterval

def holds (interval : RoundingInterval) (digits : Nat) (exponent : Int) : Bool :=
  let point := digits * 10 ^ exponent.toNat * interval.denominator
  let grid := 10 ^ (-exponent).toNat
  if interval.closed then
    interval.lower * grid ≤ point && point ≤ interval.upper * grid
  else
    interval.lower * grid < point && point < interval.upper * grid

def onGrid? (interval : RoundingInterval) (exponent : Int) : Option Decimal :=
  let unit := 10 ^ exponent.toNat * interval.denominator
  let scaled := interval.value * 10 ^ (-exponent).toNat
  let below := scaled / unit
  let remainder := scaled % unit
  match interval.holds below exponent, interval.holds (below + 1) exponent with
  | true, true =>
    some ⟨if 2 * remainder < unit then below else below + 1, exponent⟩
  | true, false => some ⟨below, exponent⟩
  | false, true => some ⟨below + 1, exponent⟩
  | false, false => none

end RoundingInterval

/-- Seventeen digits always suffice. -/
def shortest (x : Binary64) : Decimal :=
  let interval := x.roundingInterval
  let leading := ratioLog10 interval.value interval.denominator
  let grids := (List.range 17).map fun (places : Nat) => leading - (places : Int)
  (grids.findSome? interval.onGrid?).getD ⟨x.significand, x.exponent⟩

/-- Positional below `10 ^ 16` and from `10 ^ -4` on, with a fraction digit at least. -/
def positional (digits : List Char) (leading : Int) : List Char :=
  if leading < 0 then
    ['0', '.'] ++ List.replicate (-leading - 1).toNat '0' ++ digits
  else
    let whole := leading.toNat + 1
    let padded := digits ++ List.replicate (whole - digits.length) '0'
    let fraction := padded.drop whole
    padded.take whole ++ ['.'] ++ (if fraction.isEmpty then ['0'] else fraction)

def scientific (digits : List Char) (leading : Int) : List Char :=
  digits.take 1
    ++ (if digits.length ≤ 1 then [] else '.' :: digits.drop 1)
    ++ 'e' :: (toString leading).toList

def Decimal.digitText (decimal : Decimal) : List Char :=
  Text.withoutTrailingZeros (Nat.toDigits 10 decimal.digits)

def Decimal.leading (decimal : Decimal) : Int :=
  decimal.exponent + (Nat.toDigits 10 decimal.digits).length - 1

def finiteText (x : Binary64) : List Char :=
  let sign := if x.isNegative then ['-'] else []
  if x.magnitude = 0 then sign ++ ['0', '.', '0']
  else
    let decimal := x.shortest
    if decimal.leading < -4 ∨ 16 ≤ decimal.leading then
      sign ++ scientific decimal.digitText decimal.leading
    else
      sign ++ positional decimal.digitText decimal.leading

def text (x : Binary64) : String :=
  if x.isNaN then "NaN"
  else if x.isFinite then String.ofList x.finiteText
  else if x.isNegative then "-inf"
  else "inf"

end TypedGraphQL.Binary64
