import TypedGraphQL.Response.DecodeError

namespace TypedGraphQL

structure EnumLeaf where
  label : String
  first : String
  others : List String
deriving DecidableEq, Repr

def EnumLeaf.values (enum : EnumLeaf) : List String :=
  enum.first :: enum.others

inductive IntWidth where
  | bits32
  | bits64
deriving DecidableEq, Repr

namespace IntWidth

/-- The integers of the width lie from `-bound` up to `bound - 1`. -/
def bound : IntWidth → Int
  | bits32 => 2 ^ 31
  | bits64 => 2 ^ 63

def holds (width : IntWidth) (value : Int) : Bool :=
  -width.bound ≤ value && value < width.bound

end IntWidth

inductive LeafType where
  | string
  | boolean
  | int (width : IntWidth)
  | float
  | json
  | enum (values : EnumLeaf)
  | option (value : LeafType)
  | list (element : LeafType)
deriving DecidableEq, Repr

namespace LeafType

abbrev Value : LeafType → Type
  | string => String
  | boolean => Bool
  | int _ => Int
  | float => Binary64
  | json => Json
  | enum _ => String
  | option value => Option value.Value
  | list element => List element.Value

def label : LeafType → String
  | string => "alloc::string::String"
  | boolean => "bool"
  | int .bits32 => "i32"
  | int .bits64 => "i64"
  | float => "f64"
  | json => "serde_json::value::Value"
  | enum values => values.label
  | option value => "core::option::Option<" ++ value.label ++ ">"
  | list element => "alloc::vec::Vec<" ++ element.label ++ ">"

def nullable : LeafType → Bool
  | option _ => true
  | _ => false

def placeholder : (type : LeafType) → type.Value
  | string => ""
  | boolean => false
  | int _ => (0 : Int)
  | float => Binary64.zero false
  | json => Json.null
  | enum values => values.first
  | option _ => none
  | list _ => []

def enumName? : Json → Option String
  | .string name => some name
  | .object [(name, .null)] => some name
  | _ => none

def decode? : (type : LeafType) → Json → Option type.Value
  | string, .string text => some text
  | boolean, .bool value => some value
  | int width, .number (.integer value) =>
    if width.holds value then some value else none
  | float, .number value => some value.toBinary64
  | json, node => some node
  | enum values, node =>
    (enumName? node).filter values.values.contains
  | option _, .null => some none
  | option value, node => (value.decode? node).map some
  | list element, .array items => items.mapM element.decode?
  | _, _ => none

def decode (type : LeafType) (key : String) (node : Json) :
    Except DecodeError type.Value :=
  if node.isNull && !type.nullable then .error (.nullNonNullable key)
  else
    match type.decode? node with
    | some value => .ok value
    | none => .error (.mismatch key type.label node)

end LeafType

end TypedGraphQL
