namespace TypedGraphQL.Json

inductive FaultKind where
  | endInValue
  | endInList
  | endInObject
  | endInString
  | expectedValue
  | expectedColon
  | expectedListSeparator
  | expectedObjectSeparator
  | expectedWord
  | expectedKey
  | trailingComma
  | trailingCharacters
  | invalidEscape
  | endOfHexEscape
  | loneSurrogate
  | controlCharacter
  | invalidNumber
  | numberOutOfRange
  | nestedTooDeep
deriving DecidableEq, Repr

def FaultKind.message : FaultKind → String
  | endInValue => "EOF while parsing a value"
  | endInList => "EOF while parsing a list"
  | endInObject => "EOF while parsing an object"
  | endInString => "EOF while parsing a string"
  | expectedValue => "expected value"
  | expectedColon => "expected `:`"
  | expectedListSeparator => "expected `,` or `]`"
  | expectedObjectSeparator => "expected `,` or `\x7d`"
  | expectedWord => "expected ident"
  | expectedKey => "key must be a string"
  | trailingComma => "trailing comma"
  | trailingCharacters => "trailing characters"
  | invalidEscape => "invalid escape"
  | endOfHexEscape => "unexpected end of hex escape"
  | loneSurrogate => "lone leading surrogate in hex escape"
  | controlCharacter =>
    "control character (\\u0000-\\u001F) found while parsing a string"
  | invalidNumber => "invalid number"
  | numberOutOfRange => "number out of range"
  | nestedTooDeep => "recursion limit exceeded"

/-- A fault lies right after the given number of bytes. -/
structure Fault where
  kind : FaultKind
  offset : Nat
deriving DecidableEq, Repr

structure Position where
  line : Nat
  column : Nat
deriving DecidableEq, Repr

def positionFrom (line lineStart here offset : Nat) : List Char → Position
  | [] => ⟨line, offset - lineStart⟩
  | c :: rest =>
    if offset ≤ here then ⟨line, offset - lineStart⟩
    else if c = '\n' then
      positionFrom (line + 1) (here + 1) (here + 1) offset rest
    else
      positionFrom line lineStart (here + c.utf8Size) offset rest

def Fault.position (fault : Fault) (text : String) : Position :=
  positionFrom 1 0 0 fault.offset text.toList

def Fault.message (fault : Fault) (text : String) : String :=
  let position := fault.position text
  fault.kind.message ++ " at line " ++ toString position.line
    ++ " column " ++ toString position.column

end TypedGraphQL.Json
