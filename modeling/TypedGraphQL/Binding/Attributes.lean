import TypedGraphQL.Schema.Basic
import TypedGraphQL.Text.Lines
import TypedGraphQL.Text.Printable

namespace TypedGraphQL

namespace DocComment

def text? (description : Option String) : Option String :=
  (description.map fun text => Text.trim text.toList).bind fun text =>
    if text.isEmpty then none else some (String.ofList text)

def textOr (description : Option String) (name : String) : String :=
  (text? description).getD name

def line (margin : String) (text : List Char) : String :=
  let trimmed := Text.trimEnd text
  if trimmed.isEmpty then margin ++ "///"
  else margin ++ "/// " ++ String.ofList trimmed

def lines (text margin : String) : List String :=
  (Text.lines text.toList).map (line margin)

end DocComment

def margin : String := "    "

def deprecationLines (indentation : String) (member : Member) : List String :=
  if member.isDeprecated then
    [indentation ++ "#[deprecated(note = "
      ++ Text.quoted (member.deprecationReason.getD "") ++ ")]"]
  else []

def memberLines (indentation : String) (member : Member) : List String :=
  (match DocComment.text? member.description with
    | some text => DocComment.lines text indentation
    | none => [])
    ++ deprecationLines indentation member

def typeLines (name : String) (description : Option String) : List String :=
  DocComment.lines (DocComment.textOr description name) ""

end TypedGraphQL
