import TypedGraphQL.Json.Basic
import TypedGraphQL.Number.Shortest
import TypedGraphQL.Text.Digits

namespace TypedGraphQL.Json

def escapedChar (c : Char) : List Char :=
  if c = '"' then ['\\', '"']
  else if c = '\\' then ['\\', '\\']
  else if c = '\x08' then ['\\', 'b']
  else if c = '\x0c' then ['\\', 'f']
  else if c = '\n' then ['\\', 'n']
  else if c = '\r' then ['\\', 'r']
  else if c = '\t' then ['\\', 't']
  else if c.toNat < 0x20 then ['\\', 'u', '0', '0'] ++ Text.hexPair c.toNat
  else [c]

def quote (text : String) : String :=
  String.ofList ('"' :: text.toList.flatMap escapedChar ++ ['"'])

def Number.text : Number → String
  | .integer value => toString value
  | .float value => value.text

mutual
def text : Json → String
  | null => "null"
  | bool true => "true"
  | bool false => "false"
  | number value => value.text
  | string value => quote value
  | array items => "[" ++ ",".intercalate (itemTexts items) ++ "]"
  | object entries => "\x7b" ++ ",".intercalate (entryTexts entries) ++ "\x7d"

def itemTexts : List Json → List String
  | [] => []
  | item :: rest => item.text :: itemTexts rest

def entryTexts : List (String × Json) → List String
  | [] => []
  | (key, value) :: rest => (quote key ++ ":" ++ value.text) :: entryTexts rest
end

end TypedGraphQL.Json
