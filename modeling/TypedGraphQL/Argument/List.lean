import TypedGraphQL.Argument.Literal
import TypedGraphQL.Digest.Sha256

namespace TypedGraphQL

structure Arguments where
  entries : List (String × Literal)
deriving Repr, Inhabited

namespace Arguments

def empty : Arguments := ⟨[]⟩

def isEmpty (arguments : Arguments) : Bool :=
  arguments.entries.isEmpty

def add (arguments : Arguments) (name : String) (value : Literal) : Arguments :=
  ⟨arguments.entries ++ [(name, value)]⟩

def addOptional (arguments : Arguments) (name : String) :
    Option Literal → Arguments
  | some value => arguments.add name value
  | none => arguments

def toObject (arguments : Arguments) : Literal :=
  .object arguments.entries

def same (arguments other : Arguments) : Bool :=
  Literal.sameFields arguments.entries other.entries

def text (arguments : Arguments) : String :=
  if arguments.isEmpty then ""
  else "(" ++ ", ".intercalate (Literal.fieldTexts arguments.entries) ++ ")"

/-- The first eight digits of the digest of the written arguments. -/
def fingerprint (arguments : Arguments) : String :=
  String.ofList
    ((Digest.hexText (Digest.sha256 arguments.text.toUTF8.data.toList)).take 8)

def alias? (arguments : Arguments) (name : String) : Option String :=
  if arguments.isEmpty then none
  else some (name ++ "__" ++ arguments.fingerprint)

def responseKey (arguments : Arguments) (name : String) : String :=
  (arguments.alias? name).getD name

end Arguments

end TypedGraphQL
