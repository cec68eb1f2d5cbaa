import TypedGraphQL.Proofs.Response.Sealed
import TypedGraphQL.Proofs.Syntax.Value
import TypedGraphQL.Response.Operation

namespace TypedGraphQL

namespace Syntax

mutual
def selections? : List Tree → Option (List Selection)
  | [] => some []
  | .token .spread :: .token (.name keyword) :: .token (.name typeName) ::
      .group .curly block :: rest =>
    if keyword = "on" ∧ block ≠ [] then do
      let nested ← selections? block
      return .fragment typeName nested :: (← selections? rest)
    else none
  | .token (.name key) :: .token (.punctuator ':') :: .token (.name name) ::
      rest => field? (some key) name rest
  | .token (.name name) :: rest => field? none name rest
  | _ => none
termination_by trees => (sizeOf trees, 0)

def field? (alias? : Option String) (name : String) :
    List Tree → Option (List Selection)
  | .group .round written :: rest =>
    if written ≠ [] then do
      let entries ← fields? written
      block? alias? name ⟨entries⟩ rest
    else none
  | rest => block? alias? name .empty rest
termination_by trees => (sizeOf trees, 2)

def block? (alias? : Option String) (name : String) (arguments : Arguments) :
    List Tree → Option (List Selection)
  | .group .curly block :: rest =>
    if block ≠ [] then do
      let nested ← selections? block
      return .field alias? name arguments nested :: (← selections? rest)
    else none
  | rest => do
    return .field alias? name arguments [] :: (← selections? rest)
termination_by trees => (sizeOf trees, 1)
end

def keyword? : String → Option OperationKind
  | "query" => some .query
  | "mutation" => some .mutation
  | "subscription" => some .subscription
  | _ => none

structure Operation where
  kind : OperationKind
  name? : Option String
  selections : List Selection

def body? (kind : OperationKind) (name? : Option String) :
    Tree × List Char → Option Operation
  | (.group .curly block, rest) =>
    if block ≠ [] ∧ unignored false rest = [] then
      (selections? block).map (⟨kind, name?, ·⟩)
    else none
  | _ => none

def document? (text : List Char) : Option Operation := do
  let (first, rest) ← tree? text
  match first with
  | .token (.name keyword) =>
    let kind ← keyword? keyword
    let (second, rest) ← tree? rest
    match second with
    | .token (.name name) => body? kind (some name) (← tree? rest)
    | _ => body? kind none (second, rest)
  | _ => body? .query none (first, rest)

end Syntax

namespace Selection

open Syntax

mutual
/-- The selection that its text stands for. -/
def asWritten : Selection → Selection
  | field alias? name arguments selections =>
    field alias? name ⟨Literal.fieldsAsWritten arguments.entries⟩
      (allAsWritten selections)
  | fragment typeCondition selections =>
    fragment typeCondition (allAsWritten selections)

def allAsWritten : List Selection → List Selection
  | [] => []
  | entry :: rest => entry.asWritten :: allAsWritten rest
end

def labelTrees (alias? : Option String) (name : String) : List Tree :=
  match alias? with
  | some key =>
    [.token (.name key), .token (.punctuator ':'), .token (.name name)]
  | none => [.token (.name name)]

def argumentTrees (arguments : Arguments) : List Tree :=
  if arguments.isEmpty then []
  else [.group .round (Literal.fieldTrees arguments.entries)]

mutual
def trees : Selection → List Tree
  | field alias? name arguments selections =>
    labelTrees alias? name ++ (argumentTrees arguments ++
      if selections.isEmpty then [] else [.group .curly (allTrees selections)])
  | fragment typeCondition selections =>
    [.token .spread, .token (.name "on"), .token (.name typeCondition),
      .group .curly (allTrees selections)]

def allTrees : List Selection → List Tree
  | [] => []
  | entry :: rest => entry.trees ++ allTrees rest
end

mutual
/--
Fields, arguments and types have names, values are writable, and no fragment is
empty.
-/
def Writable : Selection → Prop
  | field _ name arguments selections =>
    isName name = true ∧ Literal.FieldsWritable arguments.entries ∧
      AllWritable selections
  | fragment typeCondition selections =>
    isName typeCondition = true ∧ selections ≠ [] ∧ AllWritable selections

def AllWritable : List Selection → Prop
  | [] => True
  | entry :: rest => entry.Writable ∧ AllWritable rest
end

/-! Reading the text of selections as trees -/

end Selection

namespace Syntax

theorem isName_append_fingerprint {name : String} (arguments : Arguments)
    (named : isName name = true) :
    isName (name ++ "__" ++ arguments.fingerprint) = true := by
  have digits : ∀ digit < 16, isNameContinue (Nat.digitChar digit) = true := by
    decide
  rw [isName] at named ⊢
  split at named
  · contradiction
  next c others found =>
    rw [String.toList_append, String.toList_append, found]
    simp only [List.cons_append, Bool.and_eq_true, List.all_append] at named ⊢
    refine ⟨named.1, ⟨named.2, rfl⟩, List.all_eq_true.mpr ?_⟩
    intro c member
    obtain ⟨digit, small, rfl⟩ := Arguments.mem_fingerprint member
    exact digits digit small

theorem readsAs_spread : ReadsAs ['.', '.', '.'] [.token .spread] :=
  ReadsAsTree.readsAs (.token (fun _ _ => rfl) fun _ => rfl)

theorem readsAs_arguments {arguments : Arguments}
    (writable : Literal.FieldsWritable arguments.entries) :
    ReadsAs arguments.text.toList (Selection.argumentTrees arguments) ∧
      Apart arguments.text.toList := by
  rw [Arguments.text, Selection.argumentTrees]
  split
  next => exact ⟨.nil, .nil⟩
  next =>
    have reads := ReadsAsTree.group .round
      ((Literal.readsAll_fieldTexts _ writable).intercalate separates_comma)
    rw [String.toList_append, String.toList_append]
    exact ⟨reads.readsAs, .cons (by decide)⟩

theorem readsAs_label {alias? : Option String} {name : String}
    {arguments : Arguments} (named : isName name = true)
    (hasAlias : alias? = arguments.alias? name) :
    ReadsAs
      (match alias? with
        | some key => key ++ ": " ++ name
        | none => name).toList
      (Selection.labelTrees alias? name) := by
  have nameReads := (readsAsTree_name named).readsAs
  cases alias? with
  | none => exact nameReads
  | some key =>
      have keyNamed : isName key = true := by
        rw [Arguments.alias?] at hasAlias
        split at hasAlias
        · contradiction
        · cases hasAlias
          exact isName_append_fingerprint arguments named
      have reads := (readsAsTree_name keyNamed).readsAs.append
        (readsAs_colon.append nameReads.blank (.cons (by decide)))
        (.cons (by decide))
      simp only [String.toList_append, List.append_assoc]
      exact reads

theorem readsAsTree_braced {texts : List String} {trees : List Tree}
    (reads : ReadsAll texts trees) :
    ReadsAsTree (Selection.braced (" ".intercalate texts)).toList
      (.group .curly trees) := by
  have inner := (reads.intercalate separates_blank).append ReadsAs.nil.blank
    (.cons (by decide))
  rw [List.append_nil] at inner
  have braced := ReadsAsTree.group .curly inner.blank
  rw [Selection.braced, String.toList_append, String.toList_append]
  simpa [Bracket.openChar, Bracket.closeChar] using braced

end Syntax

namespace Selection

open Syntax

mutual
theorem readsAs_text :
    ∀ entry : Selection, entry.Writable → Hereditary Aliased [entry] →
      ReadsAs entry.text.toList entry.trees
  | field alias? name arguments selections, writable, aliased => by
      obtain ⟨hasAlias, nestedAliased⟩ :=
        hereditary_iff.mp aliased _ (List.mem_singleton_self _)
      obtain ⟨named, argumentsWritable, nestedWritable⟩ := writable
      have labelled := readsAs_label named hasAlias
      obtain ⟨argumentsRead, argumentsApart⟩ :=
        readsAs_arguments argumentsWritable
      have blockRead : ReadsAs
          (if selections.isEmpty then ""
            else " " ++ braced (" ".intercalate (texts selections))).toList
          (if selections.isEmpty then []
            else [.group .curly (allTrees selections)]) ∧
          Apart (if selections.isEmpty then ""
            else " " ++ braced (" ".intercalate (texts selections))).toList := by
        split
        next => exact ⟨.nil, .nil⟩
        next =>
          have reads := readsAsTree_braced
            (readsAll_texts selections nestedWritable nestedAliased)
          rw [String.toList_append]
          exact ⟨reads.readsAs.blank, .cons (by decide)⟩
      rw [text.eq_def, trees]
      simp only [String.toList_append, List.append_assoc]
      exact labelled.append
        (argumentsRead.append blockRead.1 blockRead.2)
        (argumentsApart.append blockRead.2)
  | fragment typeCondition selections, writable, aliased => by
      obtain ⟨-, nestedAliased⟩ :=
        hereditary_iff.mp aliased _ (List.mem_singleton_self _)
      obtain ⟨named, -, nestedWritable⟩ := writable
      have block := readsAsTree_braced
        (readsAll_texts selections nestedWritable nestedAliased)
      have condition := (readsAsTree_name named).readsAs.append
        block.readsAs.blank (.cons (by decide))
      have reads := readsAs_spread.append
        ((readsAsTree_name (by decide : isName "on" = true)).readsAs.append
          condition.blank (.cons (by decide))).blank (.cons (by decide))
      rw [text, trees]
      simpa using reads

theorem readsAll_texts :
    ∀ selections : List Selection, AllWritable selections →
      Hereditary Aliased selections →
      ReadsAll (texts selections) (allTrees selections)
  | [], _, _ => .nil
  | entry :: rest, writable, aliased => by
      have parts := hereditary_iff.mp aliased
      rw [texts, allTrees]
      refine .cons (readsAs_text entry writable.1 ?_)
        (readsAll_texts rest writable.2 ?_)
      · exact hereditary_iff.mpr fun other member =>
          parts other (by simp_all)
      · exact hereditary_iff.mpr fun other member =>
          parts other (by simp [member])
end

end Selection

end TypedGraphQL
