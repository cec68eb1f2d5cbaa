import TypedGraphQL.Files.Access

namespace TypedGraphQL

/-!
Trees of directories and files as values, and the file operations on them.
Paths start at the root if a slash is in front, and else at the working
directory.
-/

inductive FileEntry where
  | file (content : ByteArray)
  | directory (entries : List (String × FileEntry))

def FileEntry.isDirectory : FileEntry → Bool
  | directory _ => true
  | file _ => false

/-- What lies in a directory; of two entries with one name the first counts. -/
abbrev Directory := List (String × FileEntry)

namespace Directory

def get? : Directory → List String → Option FileEntry
  | here, [] => some (.directory here)
  | here, [name] => here.lookup name
  | here, name :: names =>
    match here.lookup name with
    | some (.directory inner) => get? inner names
    | _ => none

def put : Directory → List String → FileEntry → Directory
  | here, [], _ => here
  | here, [name], entry => (name, entry) :: here
  | here, name :: names, entry =>
    match here.lookup name with
    | some (.directory inner) => (name, .directory (put inner names entry)) :: here
    | _ => here

end Directory

structure FileTree where
  root : Directory
  workingDirectory : List String

namespace FileTree

def startingIn (workingDirectory : List String) : FileTree :=
  { root := workingDirectory.foldr (fun name inner => [(name, .directory inner)]) []
    workingDirectory := workingDirectory }

def get? (tree : FileTree) (place : List String) : Option FileEntry :=
  tree.root.get? place

def put (tree : FileTree) (place : List String) (entry : FileEntry) : FileTree :=
  { tree with root := tree.root.put place entry }

/-- The names from the root on, with what each of them leads to; the last one first. -/
abbrev Trail := List (String × Option FileEntry)

def Trail.place (trail : Trail) : List String :=
  (trail.map (·.1)).reverse

def reached (tree : FileTree) : Trail → Option FileEntry
  | [] => some (.directory tree.root)
  | (_, entry?) :: _ => entry?

def enter (tree : FileTree) (trail : Trail) : Except FileFault Directory :=
  match tree.reached trail with
  | none => .error .notFound
  | some (.directory entries) => .ok entries
  | some (.file _) => .error .notDirectory

/-- Goes on by the parts of a path.  The last one need not lead to anything. -/
def walk (tree : FileTree) (trail : Trail) : List String → Except FileFault Trail
  | [] => .ok trail
  | part :: rest => do
    let here ← tree.enter trail
    if FilePath.isIdle part then tree.walk trail rest
    else if part = ".." then tree.walk trail.tail rest
    else if FilePath.nameLimit < part.utf8ByteSize then .error .nameTooLong
    else tree.walk ((part, here.lookup part) :: trail) rest

def follow (tree : FileTree) (path : String) (names : List String) :
    Except FileFault Trail :=
  if path.toList.head? = some '/' then tree.walk [] names
  else tree.walk [] (tree.workingDirectory ++ names)

def locate (tree : FileTree) (path : String) : Except FileFault (List String) := do
  FilePath.check path
  return (← tree.follow path (FilePath.parts path)).place

def readBytes (tree : FileTree) (path : String) : Except FileFault ByteArray := do
  match tree.get? (← tree.locate path) with
  | none => .error .notFound
  | some (.directory _) => .error .isDirectory
  | some (.file content) => .ok content

def readText (tree : FileTree) (path : String) : Except FileFault String := do
  match String.fromUTF8? (← tree.readBytes path) with
  | some text => .ok text
  | none => .error .notText

/--
The place that a path can be written at.  A path that ends in a slash can only
be one of a directory, whether or not its last name exists.
-/
def writablePlace (tree : FileTree) (path : String) :
    Except FileFault (List String) := do
  if path.toList.getLast? = some '/' then
    FilePath.check path
    let names := ((FilePath.parts path).reverse.dropWhile (· == "")).reverse
    let _ ← tree.enter (← tree.follow path names.dropLast)
    .error .isDirectory
  else
    let place ← tree.locate path
    match tree.get? place with
    | some (.directory _) => .error .isDirectory
    | _ => .ok place

def writeText (tree : FileTree) (path text : String) : Except FileFault FileTree :=
  (tree.writablePlace path).map fun place => tree.put place (.file text.toUTF8)

def createDirectory (tree : FileTree) (path : String) : Except FileFault FileTree := do
  let place ← tree.locate path
  match tree.get? place with
  | some _ => .error .alreadyExists
  | none => .ok (tree.put place (.directory []))

def isDirectory (tree : FileTree) (path : String) : Bool :=
  match tree.locate path with
  | .ok place => ((tree.get? place).map FileEntry.isDirectory).getD false
  | .error _ => false

def change (changed : FileTree → Except FileFault FileTree) :
    StateM FileTree (Except FileFault Unit) := fun tree =>
  match changed tree with
  | .ok tree => (.ok (), tree)
  | .error fault => (.error fault, tree)

def access : FileAccess (StateM FileTree) where
  readText path := fun tree => (tree.readText path, tree)
  createDirectory path := change (·.createDirectory path)
  isDirectory path := fun tree => (tree.isDirectory path, tree)
  writeText path text := change (·.writeText path text)

end FileTree

end TypedGraphQL
