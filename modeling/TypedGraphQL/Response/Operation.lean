import TypedGraphQL.Response.SelectionSet
import TypedGraphQL.Selection.Text

namespace TypedGraphQL

inductive OperationKind where
  | query
  | mutation
  | subscription
deriving DecidableEq, Repr

def OperationKind.keyword : OperationKind → String
  | query => "query"
  | mutation => "mutation"
  | subscription => "subscription"

structure Request where
  query : String
  operationName : Option String
deriving DecidableEq, Repr

def Request.toJson (request : Request) : Json :=
  match request.operationName with
  | some name =>
    .object [("operationName", .string name), ("query", .string request.query)]
  | none => .object [("query", .string request.query)]

structure ServerError where
  message : String
  path : List Json
  extensions : Option Json
deriving Repr

namespace ServerError

def path? : Option Json → Option (List Json)
  | none => some []
  | some (.array items) => some items
  | some _ => none

def extensionsOf : Option Json → Option Json
  | some .null => none
  | node => node

def ofMembers? (message path extensions : Option Json) : Option ServerError :=
  match message, path? path with
  | some (.string message), some path =>
    some ⟨message, path, extensionsOf extensions⟩
  | _, _ => none

/-- An error is an object, or a list of its members whose end may be missing. -/
def ofJson? : Json → Option ServerError
  | .object entries =>
    ofMembers? (Json.entry? entries "message") (Json.entry? entries "path")
      (Json.entry? entries "extensions")
  | .array [message] => ofMembers? message none none
  | .array [message, path] => ofMembers? message path none
  | .array [message, path, extensions] => ofMembers? message path extensions
  | _ => none

end ServerError

structure Response (α : Type) where
  data : Option α
  errors : List ServerError

def decodeErrors : Option Json → Except DecodeError (List ServerError)
  | none | some .null => .ok []
  | some (.array items) =>
    match items.mapM ServerError.ofJson? with
    | some errors => .ok errors
    | none => .error (.mismatch "errors" "list of errors" (.array items))
  | some node => .error (.mismatch "errors" "list of errors" node)

inductive SendError where
  | transport (reason : String)
  | decode (error : DecodeError)
deriving DecidableEq, Repr

def SendError.message : SendError → String
  | transport reason => "transport failed: " ++ reason
  | decode error => error.message

abbrev Transport := Request → Except String Json

namespace SelectionSet

variable {scope : Scope} {α : Type}

def text (selection : SelectionSet scope α) : String :=
  Selection.listText selection.selections

def document (kind : OperationKind) (selection : SelectionSet scope α) : String :=
  kind.keyword ++ " " ++ Selection.blockText selection.selections

def documentNamed (kind : OperationKind) (selection : SelectionSet scope α)
    (name : String) : String :=
  kind.keyword ++ " " ++ name ++ " " ++ Selection.blockText selection.selections

def request (kind : OperationKind) (selection : SelectionSet scope α) : Request :=
  ⟨selection.document kind, none⟩

def decodeData (selection : SelectionSet scope α) :
    Option Json → Except DecodeError (Option α)
  | none | some .null => .ok none
  | some node => (selection.decode "data" node).map some

/-- Reads a whole payload, its errors before its data. -/
def decodeResponse (selection : SelectionSet scope α) (payload : Json) :
    Except DecodeError (Response α) :=
  match payload with
  | .object entries => do
    let errors ← decodeErrors (Json.entry? entries "errors")
    let data ← selection.decodeData (Json.entry? entries "data")
    return ⟨data, errors⟩
  | other => .error (.mismatch "response" "object" other)

def send (kind : OperationKind) (selection : SelectionSet scope α)
    (transport : Transport) : Except SendError (Response α) :=
  match transport (selection.request kind) with
  | .error reason => .error (.transport reason)
  | .ok payload =>
    match selection.decodeResponse payload with
    | .ok response => .ok response
    | .error error => .error (.decode error)

end SelectionSet

end TypedGraphQL
