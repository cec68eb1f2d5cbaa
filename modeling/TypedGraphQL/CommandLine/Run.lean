import TypedGraphQL.CommandLine.Invocation
import TypedGraphQL.Generate

namespace TypedGraphQL

structure Outcome where
  code : Nat
  stdout : String
  stderr : String
deriving DecidableEq, Repr

namespace Invocation

def helpText : String :=
  Text.joinLines
    ["Generates typed Rust bindings from a GraphQL schema",
     "",
     "Usage: gqlbind [COMMAND]",
     "",
     "Commands:",
     "  generate  Generate bindings from an introspection result",
     "  help      Print this message or the help of the given subcommand(s)",
     "",
     "Options:",
     "  -h, --help     Print help",
     "  -V, --version  Print version",
     ""]

def generateHelpText : String :=
  Text.joinLines
    ["Generate bindings from an introspection result",
     "",
     "Usage: gqlbind generate [OPTIONS] --schema <SCHEMA_JSON>",
     "",
     "Options:",
     "      --schema <SCHEMA_JSON>  Introspection result (JSON) to generate bindings for",
     "  -o, --output <OUTPUT_RS>    File to write the bindings to; stdout when omitted",
     "      --config <CONFIG_TOML>  Generator configuration (TOML)",
     "  -h, --help                  Print help",
     ""]

def versionText : String := "gqlbind 0.1.0\n"

def misuseText : String :=
  "error: invalid arguments\n\nFor more information, try '--help'.\n"

variable {m : Type → Type} [Monad m] (files : FileAccess m) [Config.Report]

def runGenerate (arguments : GenerateArguments) : ExceptT GenerateError m Outcome := do
  let config ←
    match arguments.config with
    | some path => loadConfig files path
    | none => pure Config.standard
  match arguments.output with
  | some output =>
    generateFile files arguments.schema output config
    return ⟨0, "", "Generated " ++ output ++ "\n"⟩
  | none =>
    let text ← loadSchema files arguments.schema
    let code ← ExceptT.mk (pure (TypedGraphQL.generate text config))
    return ⟨0, code, ""⟩

def run (invocation : Invocation) : m Outcome :=
  match invocation with
  | .help => pure ⟨0, helpText, ""⟩
  | .generateHelp => pure ⟨0, generateHelpText, ""⟩
  | .version => pure ⟨0, versionText, ""⟩
  | .misuse => pure ⟨2, "", misuseText⟩
  | .generate arguments => do
    match ← (runGenerate files arguments).run with
    | .ok outcome => return outcome
    | .error error => return ⟨1, "", error.message ++ "\n"⟩

end Invocation

end TypedGraphQL
