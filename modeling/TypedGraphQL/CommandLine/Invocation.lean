namespace TypedGraphQL

inductive GenerateOption where
  | schema
  | output
  | config
deriving DecidableEq, Repr

structure GenerateArguments where
  schema : String
  output : Option String
  config : Option String
deriving DecidableEq, Repr

inductive Invocation where
  | help
  | generateHelp
  | version
  | generate (arguments : GenerateArguments)
  | misuse
deriving DecidableEq, Repr

namespace GenerateOption

def long : GenerateOption → String
  | schema => "--schema"
  | output => "--output"
  | config => "--config"

def all : List GenerateOption :=
  [schema, output, config]

def ofLong? (argument : String) : Option (GenerateOption × Option String) :=
  let name := argument.toList.takeWhile (· != '=')
  (all.find? fun option => option.long.toList == name).map fun option =>
    match argument.toList.drop name.length with
    | _ :: value => (option, some (String.ofList value))
    | [] => (option, none)

def ofShort? (argument : String) : Option (GenerateOption × Option String) :=
  match argument.toList with
  | ['-', 'o'] => some (output, none)
  | '-' :: 'o' :: '=' :: value => some (output, some (String.ofList value))
  | '-' :: 'o' :: value => some (output, some (String.ofList value))
  | _ => none

def ofArgument? (argument : String) : Option (GenerateOption × Option String) :=
  (ofLong? argument).orElse fun _ => ofShort? argument

end GenerateOption

namespace Invocation

def startsShort (c : Char) (argument : String) : Bool :=
  match argument.toList with
  | '-' :: letter :: _ => letter == c
  | _ => false

def isHelp (argument : String) : Bool :=
  argument == "--help" || startsShort 'h' argument

def isVersion (argument : String) : Bool :=
  argument == "--version" || startsShort 'V' argument

/-- Arguments with a leading dash are no values, but a lone dash is. -/
def isDashed (argument : String) : Bool :=
  match argument.toList with
  | '-' :: _ :: _ => true
  | _ => false

structure Given where
  schema : Option String
  output : Option String
  config : Option String

namespace Given

def set? (given : Given) (option : GenerateOption) (value : String) :
    Option Given :=
  if value = "" then none
  else
    match option with
    | .schema =>
      if given.schema.isSome then none else some { given with schema := some value }
    | .output =>
      if given.output.isSome then none else some { given with output := some value }
    | .config =>
      if given.config.isSome then none else some { given with config := some value }

def invocation (given : Given) : Invocation :=
  match given.schema with
  | some schema => .generate ⟨schema, given.output, given.config⟩
  | none => .misuse

end Given

/-- Options of the generate command from the left; the first fault or help decides. -/
def ofOptions (given : Given) : List String → Invocation
  | [] => given.invocation
  | argument :: rest =>
    if isHelp argument then .generateHelp
    else if argument = "--" then
      if rest.isEmpty then given.invocation else .misuse
    else
      match GenerateOption.ofArgument? argument, rest with
      | some (option, some value), rest =>
        match given.set? option value with
        | some given => ofOptions given rest
        | none => .misuse
      | some (option, none), value :: rest =>
        if isDashed value then .misuse
        else
          match given.set? option value with
          | some given => ofOptions given rest
          | none => .misuse
      | some (_, none), [] => .misuse
      | none, _ => .misuse

def ofArguments : List String → Invocation
  | [] => .help
  | ["--"] => .help
  | "generate" :: options => ofOptions ⟨none, none, none⟩ options
  | ["help"] => .help
  | ["help", "generate"] => .generateHelp
  | ["help", "help"] => .help
  | argument :: _ =>
    if isHelp argument then .help
    else if isVersion argument then .version
    else .misuse

end Invocation

end TypedGraphQL
