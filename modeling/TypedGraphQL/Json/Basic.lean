import TypedGraphQL.Number.Binary64

namespace TypedGraphQL

inductive Json.Number where
  | integer (value : Int)
  | float (value : Binary64)
deriving DecidableEq, Repr, Inhabited

inductive Json where
  | null
  | bool (value : Bool)
  | number (value : Json.Number)
  | string (text : String)
  | array (items : List Json)
  | object (entries : List (String × Json))
deriving Repr, Inhabited

namespace Json

def Number.toBinary64 : Number → Binary64
  | .integer value => .ofInt value
  | .float value => value

def isNull : Json → Bool
  | null => true
  | _ => false

def kind : Json → String
  | null => "null"
  | bool _ => "boolean"
  | number _ => "number"
  | string _ => "string"
  | array _ => "list"
  | object _ => "object"

def entry? (entries : List (String × Json)) (key : String) : Option Json :=
  entries.lookup key

def insertEntry (key : String) (value : Json) :
    List (String × Json) → List (String × Json)
  | [] => [(key, value)]
  | (other, held) :: rest =>
    if key < other then (key, value) :: (other, held) :: rest
    else if key = other then (key, value) :: rest
    else (other, held) :: insertEntry key value rest

mutual
/-- The value with the entries of every object sorted by key; of equal keys the last wins. -/
def sorted : Json → Json
  | array items => array (sortedItems items)
  | object entries => object (sortedEntries entries [])
  | null => null
  | bool value => bool value
  | number value => number value
  | string text => string text

def sortedItems : List Json → List Json
  | [] => []
  | item :: rest => item.sorted :: sortedItems rest

def sortedEntries : List (String × Json) → List (String × Json) →
    List (String × Json)
  | [], done => done
  | (key, value) :: rest, done =>
    sortedEntries rest (insertEntry key value.sorted done)
end

end Json

end TypedGraphQL
