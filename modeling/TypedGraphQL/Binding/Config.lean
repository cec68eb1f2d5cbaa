import TypedGraphQL.Toml.Document

namespace TypedGraphQL

structure Config where
  runtime : String
  reservedWords : List String
  scalars : List (String × String)
deriving DecidableEq, Repr

namespace Config

def standard : Config :=
  ⟨"gqlbind_runtime", [], []⟩

/-- The type of a custom scalar; without configuration it is untyped. -/
def scalarType (config : Config) (name : String) : String :=
  (config.scalars.lookup name).getD (config.runtime ++ "::serde_json::Value")

inductive ScalarTable where
  | absent
  | dotted
  | closed
deriving DecidableEq, Repr

structure Draft where
  runtime : Option String
  reservedWords : Option (List String)
  scalars : List (String × String)
  table : ScalarTable
  insideScalars : Bool
deriving DecidableEq, Repr

def insertScalar? (name type : String) :
    List (String × String) → Option (List (String × String))
  | [] => some [(name, type)]
  | (other, held) :: rest =>
    if name < other then some ((name, type) :: (other, held) :: rest)
    else if name = other then none
    else (insertScalar? name type rest).map ((other, held) :: ·)

namespace Draft

def empty : Draft :=
  ⟨none, none, [], .absent, false⟩

def addScalar? (draft : Draft) (name type : String) : Option Draft := do
  return { draft with scalars := ← insertScalar? name type draft.scalars }

def assign? (draft : Draft) (path : List String) (value : Toml.Value) :
    Option Draft :=
  match draft.insideScalars, path, value with
  | true, [name], .text type => draft.addScalar? name type
  | false, ["runtime"], .text runtime =>
    if draft.runtime.isSome then none
    else some { draft with runtime := some runtime }
  | false, ["reserved_words"], .list words =>
    if draft.reservedWords.isSome then none
    else some { draft with reservedWords := some words }
  | false, ["scalars"], value =>
    if draft.table = .absent then do
      (← value.entries?).foldlM (fun draft (name, type) => draft.addScalar? name type)
        { draft with table := .closed }
    else none
  | false, ["scalars", name], .text type =>
    if draft.table = .closed then none
    else { draft with table := .dotted }.addScalar? name type
  | _, _, _ => none

def statement? (draft : Draft) : Toml.Statement → Option Draft
  | .assign path value => draft.assign? path value
  | .header ["scalars"] =>
    if draft.table = .absent then
      some { draft with table := .closed, insideScalars := true }
    else none
  | .header _ => none

def config (draft : Draft) : Config :=
  { runtime := draft.runtime.getD standard.runtime
    reservedWords := draft.reservedWords.getD standard.reservedWords
    scalars := draft.scalars }

end Draft

def read? (text : String) : Option Config := do
  let statements ← Toml.read? text
  return (← statements.foldlM Draft.statement? Draft.empty).config

/-- What the parser of configurations says of a text that it refuses. -/
class Report where
  fault : String → String

instance (priority := low) : Report := ⟨fun _ => ""⟩

end Config

end TypedGraphQL
