import TypedGraphQL.Argument.List

namespace TypedGraphQL

inductive Selection where
  | field (alias? : Option String) (name : String) (arguments : Arguments)
      (selections : List Selection)
  | fragment (typeCondition : String) (selections : List Selection)
deriving Repr, Inhabited

namespace Selection

/-- A field requested with `arguments`, under an alias when there are any. -/
def request (name : String) (arguments : Arguments)
    (selections : List Selection) : Selection :=
  field (arguments.alias? name) name arguments selections

def leaf (name : String) : Selection :=
  field none name .empty []

def children : Selection → List Selection
  | field _ _ _ selections => selections
  | fragment _ selections => selections

def withChildren (selections : List Selection) : Selection → Selection
  | field alias? name arguments _ => field alias? name arguments selections
  | fragment typeCondition _ => fragment typeCondition selections

def responseKey? : Selection → Option String
  | field alias? name _ _ => some (alias?.getD name)
  | fragment _ _ => none

/-- Whether two entries ask for the same thing, nested requests aside. -/
def sameRequest : Selection → Selection → Bool
  | field alias? name arguments _, field otherAlias? otherName otherArguments _ =>
    alias? == otherAlias? && name == otherName && arguments.same otherArguments
  | fragment typeCondition _, fragment otherCondition _ =>
    typeCondition == otherCondition
  | _, _ => false

end Selection

end TypedGraphQL
