import TypedGraphQL.Binding.File
import TypedGraphQL.Proofs.Binding.Item

namespace TypedGraphQL

open Syntax (isNameContinue)

structure SourceModule where
  name : String
  code : String
deriving DecidableEq, Repr

namespace SourceModule

/-- A line of code in a module: four spaces in, unless it is empty. -/
def setIn (line : List Char) : List Char :=
  if line.isEmpty then [] else "    ".toList ++ line

def opening (name : String) : List Char :=
  ("pub mod " ++ name ++ " \x7b").toList

def closing : List Char := ['\x7d']

def lines (sourceModule : SourceModule) : List (List Char) :=
  [[], opening sourceModule.name]
    ++ (Code.lines sourceModule.code).map setIn ++ [closing]

def heading : List Char :=
  "// Code generated by gqlbind. DO NOT EDIT.".toList

def fileLines (modules : List SourceModule) : List (List Char) :=
  heading :: (modules.flatMap lines ++ [[]])

/-- Undoes `setIn`, and refuses every other line. -/
def setOut? (line : List Char) : Option (List Char) :=
  if line.isEmpty then some []
  else if "    ".toList <+: line ∧ line ≠ "    ".toList then
    some (line.drop 4)
  else none

def opened? (line : List Char) : Option String :=
  let name := String.ofList
    ((line.drop "pub mod ".toList.length).takeWhile isNameContinue)
  if line = opening name then some name else none

def readLines? :
    Option (String × List (List Char)) → List (List Char) →
      Option (List SourceModule)
  | none, [[]] => some []
  | none, [] :: line :: rest =>
    (opened? line).bind fun name => readLines? (some (name, [])) rest
  | none, _ => none
  | some _, [] => none
  | some (name, before), line :: rest =>
    if line = closing then
      (readLines? none rest).map
        (⟨name, String.ofList (['\n'].intercalate before.reverse)⟩ :: ·)
    else
      (setOut? line).bind fun content =>
        readLines? (some (name, content :: before)) rest

def read? (text : String) : Option (List SourceModule) :=
  match Code.lines text with
  | [] => none
  | line :: rest =>
    if line = heading then readLines? none rest else none

theorem setOut?_setIn (line : List Char) : setOut? (setIn line) = some line := by
  cases line with
  | nil => rfl
  | cons c rest => simp [setOut?, setIn]

theorem setIn_ne_closing (line : List Char) : setIn line ≠ closing := by
  cases line with
  | nil => simp [setIn, closing]
  | cons c rest => simp [setIn, closing]

theorem opened?_opening {name : String} (spelled : Spelled name.toList) :
    opened? (opening name) = some name := by
  have stops : isNameContinue ' ' = false := by decide
  have found : ((opening name).drop "pub mod ".toList.length).takeWhile
      isNameContinue = name.toList := by
    rw [opening, String.toList_append, String.toList_append, List.append_assoc,
      List.drop_left, List.takeWhile_append_of_pos spelled]
    simp [stops]
  simp only [opened?, found, String.ofList_toList, if_true]

theorem readLines?_setIn (name : String) (before rest : List (List Char))
    (line : List Char) :
    readLines? (some (name, before)) (setIn line :: rest) =
      readLines? (some (name, line :: before)) rest := by
  rw [readLines?, if_neg (setIn_ne_closing line), setOut?_setIn, Option.bind_some]

theorem readLines?_body (name : String) (before body rest : List (List Char)) :
    readLines? (some (name, before)) (body.map setIn ++ closing :: rest) =
      (readLines? none rest).map
        (⟨name,
          String.ofList (['\n'].intercalate (before.reverse ++ body))⟩ :: ·) := by
  induction body generalizing before with
  | nil => simp [readLines?]
  | cons line body ih =>
      rw [List.map_cons, List.cons_append, readLines?_setIn, ih]
      simp

theorem readLines?_lines {sourceModule : SourceModule}
    (spelled : Spelled sourceModule.name.toList) (rest : List (List Char)) :
    readLines? none (sourceModule.lines ++ rest) =
      (readLines? none rest).map (sourceModule :: ·) := by
  have code : ['\n'].intercalate (Code.lines sourceModule.code) =
      sourceModule.code.toList := List.intercalate_splitOn '\n'
  have split : sourceModule.lines ++ rest =
      [] :: opening sourceModule.name ::
        ((Code.lines sourceModule.code).map setIn ++ closing :: rest) := by
    simp [lines]
  rw [split, readLines?, opened?_opening spelled, Option.bind_some,
    readLines?_body, List.reverse_nil, List.nil_append, code, String.ofList_toList]

/-- A text with the lines of modules is read as these modules. -/
theorem read?_of_lines {text : String} {modules : List SourceModule}
    (spelled : ∀ sourceModule ∈ modules, Spelled sourceModule.name.toList)
    (whole : Code.lines text = fileLines modules) : read? text = some modules := by
  have read : readLines? none (modules.flatMap lines ++ [[]]) = some modules := by
    clear whole
    induction modules with
    | nil => rfl
    | cons sourceModule modules ih =>
        rw [List.forall_mem_cons] at spelled
        rw [List.flatMap_cons, List.append_assoc, readLines?_lines spelled.1,
          ih spelled.2, Option.map_some]
  rw [read?, whole, fileLines]
  simpa using read

end SourceModule

end TypedGraphQL
