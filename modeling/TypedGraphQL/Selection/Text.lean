import TypedGraphQL.Selection.Basic

namespace TypedGraphQL.Selection

def braced (selections : String) : String :=
  "\x7b " ++ selections ++ " \x7d"

mutual
def text : Selection → String
  | field alias? name arguments selections =>
    let label :=
      match alias? with
      | some key => key ++ ": " ++ name
      | none => name
    let block :=
      if selections.isEmpty then ""
      else " " ++ braced (" ".intercalate (texts selections))
    label ++ arguments.text ++ block
  | fragment typeCondition selections =>
    "... on " ++ typeCondition ++ " "
      ++ braced (" ".intercalate (texts selections))

def texts : List Selection → List String
  | [] => []
  | selection :: rest => selection.text :: texts rest
end

def listText (selections : List Selection) : String :=
  " ".intercalate (texts selections)

def blockText (selections : List Selection) : String :=
  braced (listText selections)

end TypedGraphQL.Selection
