import TypedGraphQL.Binding.Config
import TypedGraphQL.Binding.File
import TypedGraphQL.Files.Access
import TypedGraphQL.Introspection.Schema

namespace TypedGraphQL

inductive ConfigError where
  | unreadable (path : String) (fault : FileFault)
  | malformed (fault : String := "")
deriving DecidableEq, Repr

def ConfigError.message : ConfigError → String
  | unreadable path fault =>
    "failed to read config " ++ path ++ ": " ++ fault.message
  | malformed fault => "invalid config: " ++ fault

inductive GenerateError where
  | schema (error : SchemaError)
  | config (error : ConfigError)
  | unreadable (path : String) (fault : FileFault)
  | unwritable (path : String) (fault : FileFault)
deriving DecidableEq, Repr

def GenerateError.message : GenerateError → String
  | schema error => error.message
  | config error => error.message
  | unreadable path fault =>
    "failed to read schema " ++ path ++ ": " ++ fault.message
  | unwritable path fault => "failed to write " ++ path ++ ": " ++ fault.message

def generate (text : String) (config : Config) : Except GenerateError String :=
  match Schema.parse text with
  | .ok schema => .ok (Generator.mk schema config).file
  | .error error => .error (.schema error)

variable {m : Type → Type} [Monad m] (files : FileAccess m)

def guarded {α : Type} (blame : FileFault → GenerateError)
    (operation : m (Except FileFault α)) : ExceptT GenerateError m α :=
  ExceptT.mk do return (← operation).mapError blame

def loadConfig [Config.Report] (path : String) :
    ExceptT GenerateError m Config := do
  let text ← guarded (fun fault => .config (.unreadable path fault))
    (files.readText path)
  match Config.read? text with
  | some config => return config
  | none => throw (.config (.malformed (Config.Report.fault text)))

def loadSchema (path : String) : ExceptT GenerateError m String :=
  guarded (.unreadable path) (files.readText path)

def generateFile (schemaPath output : String) (config : Config) :
    ExceptT GenerateError m Unit := do
  let code ← ExceptT.mk (pure (generate (← loadSchema files schemaPath) config))
  if let some parent := FilePath.parent? output then
    guarded (.unwritable parent) (files.createDirectories parent)
  guarded (.unwritable output) (files.writeText output code)

end TypedGraphQL
