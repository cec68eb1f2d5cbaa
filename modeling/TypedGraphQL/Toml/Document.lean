import TypedGraphQL.Toml.DateTime
import TypedGraphQL.Toml.Lexeme

namespace TypedGraphQL.Toml

/-!
TOML documents as lists of statements.  Values are text, lists of text, inline
tables of text, and dates and times; a document with any other value is refused.
-/

inductive Value where
  | text (content : String)
  | list (items : List String)
  | table (entries : List (String × String))
  | dateTime (value : DateTime)
deriving DecidableEq, Repr

/-- The entries of a table; a date or a time counts as a table of its text. -/
def Value.entries? : Value → Option (List (String × String))
  | table entries => some entries
  | dateTime value => some [(DateTime.entryKey, value.text)]
  | _ => none

inductive Statement where
  | assign (path : List String) (value : Value)
  | header (path : List String)
deriving DecidableEq, Repr

def items? : Nat → List Char → Option (List String × List Char)
  | 0, _ => none
  | fuel + 1, text =>
    match skipLines text.length text with
    | ']' :: rest => some ([], rest)
    | text => do
      let (item, rest) ← string? text
      match skipLines rest.length rest with
      | ',' :: rest =>
        let (more, rest) ← items? fuel rest
        return (item :: more, rest)
      | ']' :: rest => return ([item], rest)
      | _ => none

def entry? (text : List Char) : Option ((String × String) × List Char) := do
  let (path, rest) ← key? (text.length + 1) text
  match path, rest with
  | [name], '=' :: rest =>
    let (content, rest) ← string? (skipGaps rest)
    return ((name, content), rest)
  | _, _ => none

def entries? : Nat → List Char → Option (List (String × String) × List Char)
  | 0, _ => none
  | fuel + 1, text => do
    let (entry, rest) ← entry? text
    match skipGaps rest with
    | ',' :: rest =>
      let (more, rest) ← entries? fuel rest
      return (entry :: more, rest)
    | '}' :: rest => return ([entry], rest)
    | _ => none

def value? (text : List Char) : Option (Value × List Char) :=
  match text with
  | '[' :: rest =>
    (items? (rest.length + 1) rest).map fun (items, rest) => (.list items, rest)
  | '{' :: rest =>
    match skipGaps rest with
    | '}' :: rest => some (.table [], rest)
    | _ =>
      (entries? (rest.length + 1) rest).map fun (entries, rest) =>
        (.table entries, rest)
  | _ =>
    match string? text with
    | some (content, rest) => some (.text content, rest)
    | none =>
      (DateTime.read? text).map fun (value, rest) => (.dateTime value, rest)

def assignment? (text : List Char) : Option (Statement × List Char) := do
  let (path, rest) ← key? (text.length + 1) text
  match rest with
  | '=' :: rest =>
    let (value, rest) ← value? (skipGaps rest)
    return (.assign path value, rest)
  | _ => none

def statement? (text : List Char) : Option (Statement × List Char) :=
  match text with
  | '[' :: rest => do
    let (path, rest) ← key? (rest.length + 1) rest
    match rest with
    | ']' :: rest => return (.header path, rest)
    | _ => none
  | _ => assignment? text

/-- Statements on lines of their own; `fuel` bounds their number. -/
def statements? : Nat → List Char → Option (List Statement)
  | 0, _ => none
  | fuel + 1, text =>
    match skipLines text.length text with
    | [] => some []
    | text => do
      let (statement, rest) ← statement? text
      return statement :: (← statements? fuel (← restOfLine? rest))

/-- The statements of a document; a byte order mark in front of it does not count. -/
def read? (text : String) : Option (List Statement) :=
  let content :=
    match text.toList with
    | '\ufeff' :: rest => rest
    | content => content
  statements? (content.length + 1) content

end TypedGraphQL.Toml
