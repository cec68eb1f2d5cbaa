import TypedGraphQL.Text.Words

namespace TypedGraphQL

/-!
Identifiers of generated code.  A schema name is given the case of its place,
then made a legal identifier that is no reserved word; identifiers that share a
scope are told apart by ordinals.
-/

/-- Keywords of the generated language, strict and reserved, with the underscore. -/
def keywords : List String :=
  ["_", "as", "async", "await", "break", "const", "continue", "crate", "dyn",
   "else", "enum", "extern", "false", "fn", "for", "gen", "if", "impl", "in",
   "let", "loop", "match", "mod", "move", "mut", "pub", "ref", "return", "self",
   "Self", "static", "struct", "super", "trait", "true", "type", "unsafe",
   "use", "where", "while", "abstract", "become", "box", "do", "final",
   "macro", "override", "priv", "try", "typeof", "unsized", "virtual", "yield"]

/-- Methods of the field handle, and the parameter of a nested selection. -/
def handleNames : List String :=
  ["leaf", "composite", "fragments", "include", "typename", "is_recording",
   "on", "selection"]

/-- Items that generated code names without a path. -/
def preludeNames : List String :=
  ["Option", "Some", "None", "Result", "Ok", "Err", "Vec", "Box"]

structure IdentifierPolicy where
  reserved : List String
deriving Repr

namespace IdentifierPolicy

def standard : IdentifierPolicy :=
  ⟨keywords ++ handleNames ++ preludeNames⟩

def withReservedWords (policy : IdentifierPolicy) (words : List String) :
    IdentifierPolicy :=
  ⟨policy.reserved ++ words⟩

def isReserved (policy : IdentifierPolicy) (word : String) : Bool :=
  policy.reserved.contains word

def suffix : String := "_"

def withoutLeadingDigit (name : List Char) : List Char :=
  match name with
  | c :: _ => if c.isDigit then '_' :: name else name
  | [] => []

/-- Makes a cased name an identifier; without any character it is `fallback`. -/
def finish (policy : IdentifierPolicy) (fallback : String) (name : List Char) :
    String :=
  if name.isEmpty then fallback
  else
    let identifier := String.ofList (withoutLeadingDigit name)
    if policy.isReserved identifier then identifier ++ suffix else identifier

def typeIdentifier (policy : IdentifierPolicy) (name : String) : String :=
  policy.finish "Unnamed" name.toList

def variantIdentifier (policy : IdentifierPolicy) (name : String) : String :=
  policy.finish "Unnamed" (Text.camelCase name.toList)

def fieldIdentifier (policy : IdentifierPolicy) (name : String) : String :=
  policy.finish "unnamed" (Text.snakeCase name.toList)

def numbered (identifier : String) (ordinal : Nat) : String :=
  identifier ++ suffix ++ toString ordinal

/--
The identifier itself, or with the least ordinal from 2 on that is not taken;
one more candidate than there are taken names is enough.
-/
def distinct (taken : List String) (identifier : String) : String :=
  if taken.contains identifier then
    (((List.range' 2 (taken.length + 1)).map (numbered identifier)).find?
      fun candidate => !taken.contains candidate).getD identifier
  else
    identifier

def uniqueAfter (taken : List String) : List String → List String
  | [] => []
  | identifier :: rest =>
    let chosen := distinct taken identifier
    chosen :: uniqueAfter (chosen :: taken) rest

/-- Tells the identifiers of one scope apart; the first of equal ones keeps its name. -/
def unique (identifiers : List String) : List String :=
  uniqueAfter [] identifiers

end IdentifierPolicy

end TypedGraphQL
