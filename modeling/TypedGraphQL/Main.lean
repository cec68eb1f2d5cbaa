import TypedGraphQL.CommandLine.Run

namespace TypedGraphQL

def FileFault.ofError : IO.Error → FileFault
  | .noFileOrDirectory .. => .notFound
  | .alreadyExists .. => .alreadyExists
  | .inappropriateType _ code details =>
    if code = 20 then .notDirectory
    else if code = 21 then .isDirectory
    else .other details
  | .invalidArgument _ code details =>
    if code = 36 then .nameTooLong else .other details
  | error => .other (toString error)

def attempt {α : Type} (action : IO α) : IO (Except FileFault α) := do
  match ← action.toBaseIO with
  | .ok value => return .ok value
  | .error error => return .error (.ofError error)

def attemptAt {α : Type} (path : String) (action : IO α) : IO (Except FileFault α) :=
  match FilePath.check path with
  | .ok () => attempt action
  | .error fault => return .error fault

def systemFiles : FileAccess IO where
  readText path := do
    match ← attemptAt path (IO.FS.readBinFile path) with
    | .error fault => return .error fault
    | .ok content =>
      match String.fromUTF8? content with
      | some text => return .ok text
      | none => return .error .notText
  createDirectory path := attemptAt path (IO.FS.createDir path)
  isDirectory path := do
    match ← attemptAt path (IO.FS.createDir (path ++ "/.")) with
    | .error .alreadyExists => return true
    | _ => return false
  writeText path text := attemptAt path (IO.FS.writeBinFile path text.toUTF8)

end TypedGraphQL

open TypedGraphQL in
def main (arguments : List String) : IO UInt32 := do
  let outcome ← (Invocation.ofArguments arguments).run systemFiles
  IO.print outcome.stdout
  IO.eprint outcome.stderr
  return outcome.code.toUInt32
