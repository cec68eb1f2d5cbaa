namespace TypedGraphQL

inductive FileFault where
  | notFound
  | alreadyExists
  | notDirectory
  | isDirectory
  | nameTooLong
  | zeroCharacter
  | notText
  | other (text : String)
deriving DecidableEq, Repr

def FileFault.message : FileFault → String
  | notFound => "No such file or directory (os error 2)"
  | alreadyExists => "File exists (os error 17)"
  | notDirectory => "Not a directory (os error 20)"
  | isDirectory => "Is a directory (os error 21)"
  | nameTooLong => "File name too long (os error 36)"
  | zeroCharacter => "file name contained an unexpected NUL byte"
  | notText => "stream did not contain valid UTF-8"
  | other text => text

structure FileAccess (m : Type → Type) where
  readText : String → m (Except FileFault String)
  createDirectory : String → m (Except FileFault Unit)
  isDirectory : String → m Bool
  writeText : String → String → m (Except FileFault Unit)

namespace FilePath

def partsAfter (current : List Char) : List Char → List String
  | [] => [String.ofList current.reverse]
  | c :: rest =>
    if c = '/' then String.ofList current.reverse :: partsAfter [] rest
    else partsAfter (c :: current) rest

def parts (path : String) : List String :=
  partsAfter [] path.toList

/-- A part that names nothing: the path goes on from where it is. -/
def isIdle (part : String) : Bool :=
  part == "" || part == "."

def withoutIdleEnd (parts : List String) : List String :=
  (parts.reverse.dropWhile isIdle).reverse

/--
The path without its last name; idle parts at the end do not count.  The empty
path and the root have no parent.
-/
def parent? (path : String) : Option String :=
  match parts path with
  | [] => none
  | first :: more =>
    match withoutIdleEnd more with
    | [] => if first = "" then none else some ""
    | names =>
      match withoutIdleEnd names.dropLast with
      | [] => some (if first = "" then "/" else first)
      | kept => some ("/".intercalate (first :: kept))

def lengthLimit : Nat := 4096

def nameLimit : Nat := 255

def check (path : String) : Except FileFault Unit :=
  if path.toList.contains '\x00' then .error .zeroCharacter
  else if lengthLimit ≤ path.utf8ByteSize then .error .nameTooLong
  else if path = "" then .error .notFound
  else .ok ()

end FilePath

namespace FileAccess

variable {m : Type → Type} [Monad m] (files : FileAccess m)

/-- A directory that could not be created may be there already. -/
def acceptDirectory (path : String) (fault : FileFault) :
    m (Except FileFault Unit) := do
  if ← files.isDirectory path then return .ok () else return .error fault

/--
Creates missing directories from the first one on; the parts come last first.
What a directory lies in is only looked at if it is what was missing.
-/
def createFrom : List String → m (Except FileFault Unit)
  | [] => return .ok ()
  | last :: before => do
    if FilePath.isIdle last then createFrom before
    else
      let path := "/".intercalate (last :: before).reverse
      match ← files.createDirectory path with
      | .ok () => return .ok ()
      | .error .notFound =>
        match ← createFrom before with
        | .error fault => return .error fault
        | .ok () =>
          match ← files.createDirectory path with
          | .ok () => return .ok ()
          | .error fault => files.acceptDirectory path fault
      | .error fault => files.acceptDirectory path fault

def createDirectories (path : String) : m (Except FileFault Unit) :=
  files.createFrom (FilePath.parts path).reverse

end FileAccess

end TypedGraphQL
