import TypedGraphQL.Json.Printer

namespace TypedGraphQL

inductive Literal where
  | null
  | boolean (value : Bool)
  | int (value : Int)
  | float (value : Binary64)
  | string (text : String)
  | enum (name : String)
  | list (items : List Literal)
  | object (fields : List (String × Literal))
deriving Repr, Inhabited

namespace Literal

mutual
/-- Numbers without a value are written `null`; enum values are not quoted. -/
def text : Literal → String
  | null => "null"
  | boolean true => "true"
  | boolean false => "false"
  | int value => toString value
  | float value => if value.isFinite then value.text else "null"
  | string value => Json.quote value
  | enum name => name
  | list items => "[" ++ ", ".intercalate (itemTexts items) ++ "]"
  | object fields => "\x7b" ++ ", ".intercalate (fieldTexts fields) ++ "\x7d"

def itemTexts : List Literal → List String
  | [] => []
  | item :: rest => item.text :: itemTexts rest

def fieldTexts : List (String × Literal) → List String
  | [] => []
  | (name, value) :: rest => (name ++ ": " ++ value.text) :: fieldTexts rest
end

mutual
/-- Equality with floats compared as numbers. -/
def same : Literal → Literal → Bool
  | null, null => true
  | boolean x, boolean y => x == y
  | int x, int y => x == y
  | float x, float y => x.sameNumber y
  | string x, string y => x == y
  | enum x, enum y => x == y
  | list xs, list ys => sameItems xs ys
  | object xs, object ys => sameFields xs ys
  | _, _ => false

def sameItems : List Literal → List Literal → Bool
  | [], [] => true
  | x :: xs, y :: ys => x.same y && sameItems xs ys
  | _, _ => false

def sameFields : List (String × Literal) → List (String × Literal) → Bool
  | [], [] => true
  | (name, x) :: xs, (other, y) :: ys =>
    name == other && x.same y && sameFields xs ys
  | _, _ => false
end

mutual
/-- Integers outside the signed 64-bit range become floats. -/
def ofJson : Json → Literal
  | .null => null
  | .bool value => boolean value
  | .number (.integer value) =>
    if -2 ^ 63 ≤ value ∧ value < 2 ^ 63 then int value
    else float (Binary64.ofInt value)
  | .number (.float value) => float value
  | .string value => string value
  | .array items => list (ofJsonItems items)
  | .object entries => object (ofJsonEntries entries)

def ofJsonItems : List Json → List Literal
  | [] => []
  | item :: rest => ofJson item :: ofJsonItems rest

def ofJsonEntries : List (String × Json) → List (String × Literal)
  | [] => []
  | (key, value) :: rest => (key, ofJson value) :: ofJsonEntries rest
end

def ofOption : Option Literal → Literal
  | some value => value
  | none => null

end Literal

end TypedGraphQL
