import TypedGraphQL.Text.Digits

namespace TypedGraphQL.Toml

def isGap (c : Char) : Bool :=
  c == ' ' || c == '\t'

def isPlain (c : Char) : Bool :=
  c == '\t' || (0x20 ≤ c.toNat && c.toNat != 0x7f)

def skipGaps (text : List Char) : List Char :=
  text.dropWhile isGap

def lineEnd? : List Char → Option (List Char)
  | '\n' :: rest => some rest
  | '\r' :: '\n' :: rest => some rest
  | _ => none

def skipComment (text : List Char) : List Char :=
  match text with
  | '#' :: rest => rest.dropWhile isPlain
  | _ => text

def restOfLine? (text : List Char) : Option (List Char) :=
  match skipComment (skipGaps text) with
  | [] => some []
  | rest => lineEnd? rest

def skipLines : Nat → List Char → List Char
  | 0, text => text
  | fuel + 1, text =>
    let rest := skipComment (skipGaps text)
    match lineEnd? rest with
    | some following => skipLines fuel following
    | none => rest

def scalarValue? (digits : List Char) : Option Char := do
  let code ← Text.hexNumber? digits
  if code.isValidChar then some (Char.ofNat code) else none

def escaped? (c : Char) : Option Char :=
  if c = '"' ∨ c = '\\' then some c
  else if c = 'b' then some '\x08'
  else if c = 't' then some '\t'
  else if c = 'n' then some '\n'
  else if c = 'f' then some '\x0c'
  else if c = 'r' then some '\r'
  else none

def escape? : List Char → Option (Char × List Char)
  | 'u' :: a :: b :: c :: d :: rest =>
    (scalarValue? [a, b, c, d]).map (·, rest)
  | 'U' :: a :: b :: c :: d :: e :: f :: g :: h :: rest =>
    (scalarValue? [a, b, c, d, e, f, g, h]).map (·, rest)
  | c :: rest => (escaped? c).map (·, rest)
  | [] => none

def basic? : Nat → List Char → Option (List Char × List Char)
  | 0, _ => none
  | fuel + 1, text =>
    match text with
    | '"' :: rest => some ([], rest)
    | '\\' :: rest => do
      let (c, rest) ← escape? rest
      let (more, rest) ← basic? fuel rest
      return (c :: more, rest)
    | c :: rest =>
      if isPlain c then do
        let (more, rest) ← basic? fuel rest
        return (c :: more, rest)
      else none
    | [] => none

def literal? (text : List Char) : Option (List Char × List Char) :=
  let body := text.takeWhile fun c => isPlain c && c != '\''
  match text.drop body.length with
  | '\'' :: rest => some (body, rest)
  | _ => none

/-- The end of text over several lines, which up to two more quotes may belong to. -/
def closing? (quote : Char) : List Char → Option (List Char × List Char)
  | a :: b :: c :: rest =>
    if a = quote ∧ b = quote ∧ c = quote then
      let extra := (rest.takeWhile (· == quote)).take 2
      some (extra, rest.drop extra.length)
    else none
  | _ => none

def skipBlank : Nat → List Char → List Char
  | 0, text => text
  | fuel + 1, text =>
    let rest := skipGaps text
    match lineEnd? rest with
    | some following => skipBlank fuel following
    | none => rest

def multiBasic? : Nat → List Char → Option (List Char × List Char)
  | 0, _ => none
  | fuel + 1, text =>
    match closing? '"' text, lineEnd? text with
    | some closed, _ => some closed
    | _, some rest => do
      let (more, rest) ← multiBasic? fuel rest
      return ('\n' :: more, rest)
    | none, none =>
      match text with
      | '\\' :: rest =>
        match lineEnd? (skipGaps rest) with
        | some following => multiBasic? fuel (skipBlank fuel following)
        | none => do
          let (c, rest) ← escape? rest
          let (more, rest) ← multiBasic? fuel rest
          return (c :: more, rest)
      | c :: rest =>
        if isPlain c then do
          let (more, rest) ← multiBasic? fuel rest
          return (c :: more, rest)
        else none
      | [] => none

def multiLiteral? : Nat → List Char → Option (List Char × List Char)
  | 0, _ => none
  | fuel + 1, text =>
    match closing? '\'' text, lineEnd? text with
    | some closed, _ => some closed
    | _, some rest => do
      let (more, rest) ← multiLiteral? fuel rest
      return ('\n' :: more, rest)
    | none, none =>
      match text with
      | c :: rest =>
        if isPlain c then do
          let (more, rest) ← multiLiteral? fuel rest
          return (c :: more, rest)
        else none
      | [] => none

/-- A line end right after the opening quotes does not count. -/
def dropFirstLineEnd (text : List Char) : List Char :=
  (lineEnd? text).getD text

def asString (read : Option (List Char × List Char)) : Option (String × List Char) :=
  read.map fun (body, rest) => (String.ofList body, rest)

def string? (text : List Char) : Option (String × List Char) :=
  asString <|
    match text with
    | '"' :: '"' :: '"' :: rest =>
      multiBasic? (rest.length + 1) (dropFirstLineEnd rest)
    | '"' :: rest => basic? (rest.length + 1) rest
    | '\'' :: '\'' :: '\'' :: rest =>
      multiLiteral? (rest.length + 1) (dropFirstLineEnd rest)
    | '\'' :: rest => literal? rest
    | _ => none

def isBareKeyChar (c : Char) : Bool :=
  c.isAlphanum || c == '-' || c == '_'

def simpleKey? (text : List Char) : Option (String × List Char) :=
  match text with
  | '"' :: rest => asString (basic? (rest.length + 1) rest)
  | '\'' :: rest => asString (literal? rest)
  | _ =>
    let name := text.takeWhile isBareKeyChar
    if name.isEmpty then none
    else some (String.ofList name, text.drop name.length)

def key? : Nat → List Char → Option (List String × List Char)
  | 0, _ => none
  | fuel + 1, text => do
    let (name, rest) ← simpleKey? (skipGaps text)
    match skipGaps rest with
    | '.' :: rest =>
      let (more, rest) ← key? fuel rest
      return (name :: more, rest)
    | rest => return ([name], rest)

end TypedGraphQL.Toml
