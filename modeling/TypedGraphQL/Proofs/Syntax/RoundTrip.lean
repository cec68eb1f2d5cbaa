import TypedGraphQL.Proofs.Syntax.Document

namespace TypedGraphQL

namespace Syntax

def StartsSelection (trees : List Tree) : Prop :=
  ∀ tree ∈ trees.head?,
    ∃ token, tree = .token token ∧ token ≠ .punctuator ':'

theorem block?_none {alias? : Option String} {name : String}
    {arguments : Arguments} {rest : List Tree} (starts : StartsSelection rest) :
    block? alias? name arguments rest = do
      return .field alias? name arguments [] :: (← selections? rest) := by
  cases rest with
  | nil => simp [block?]
  | cons tree others =>
      obtain ⟨token, rfl, -⟩ := starts tree rfl
      simp [block?]

theorem field?_none {alias? : Option String} {name : String}
    {rest : List Tree}
    (noArguments : ∀ written, rest.head? ≠ some (.group .round written)) :
    field? alias? name rest = block? alias? name .empty rest := by
  cases rest with
  | nil => simp [field?]
  | cons tree others =>
      cases tree with
      | token token => simp [field?]
      | group bracket trees =>
          cases bracket with
          | round => exact absurd rfl (noArguments trees)
          | square | curly => simp [field?]

theorem selections?_name {name : String} {rest : List Tree}
    (noColon : rest.head? ≠ some (.token (.punctuator ':'))) :
    selections? (.token (.name name) :: rest) = field? none name rest := by
  rw [selections?]
  rintro other remaining rfl
  exact noColon rfl

end Syntax

namespace Selection

open Syntax

theorem startsSelection_trees (entry : Selection) (rest : List Tree) :
    StartsSelection (entry.trees ++ rest) := by
  intro tree head
  cases entry with
  | field alias? name arguments selections =>
      cases alias? with
      | none =>
          cases head
          exact ⟨_, rfl, by simp⟩
      | some key =>
          cases head
          exact ⟨_, rfl, by simp⟩
  | fragment typeCondition selections =>
      cases head
      exact ⟨_, rfl, by simp⟩

theorem startsSelection_allTrees (selections : List Selection) :
    StartsSelection (allTrees selections) := by
  cases selections with
  | nil =>
      intro tree head
      contradiction
  | cons entry rest => exact startsSelection_trees entry (allTrees rest)

theorem allTrees_ne_nil {selections : List Selection}
    (nonempty : selections ≠ []) : allTrees selections ≠ [] := by
  cases selections with
  | nil => contradiction
  | cons entry rest =>
      cases entry with
      | field alias? name arguments nested =>
          cases alias? <;> simp [allTrees, trees, labelTrees]
      | fragment typeCondition nested => simp [allTrees, trees]

theorem selections?_labelTrees (alias? : Option String) (name : String)
    {rest : List Tree}
    (noColon : rest.head? ≠ some (.token (.punctuator ':'))) :
    selections? (labelTrees alias? name ++ rest) = field? alias? name rest := by
  cases alias? with
  | none => exact selections?_name noColon
  | some key =>
      rw [labelTrees]
      simp only [List.cons_append, List.nil_append]
      rw [selections?]

theorem field?_argumentTrees {alias? : Option String} {name : String}
    {arguments : Arguments}
    (writable : Literal.FieldsWritable arguments.entries) {rest : List Tree}
    (noArguments : ∀ written, rest.head? ≠ some (.group .round written)) :
    field? alias? name (argumentTrees arguments ++ rest) =
      block? alias? name ⟨Literal.fieldsAsWritten arguments.entries⟩ rest := by
  obtain ⟨entries⟩ := arguments
  cases entries with
  | nil => exact field?_none noArguments
  | cons entry entries =>
      have read := Literal.fields?_fieldTrees _ writable
      rw [argumentTrees, if_neg (by simp [Arguments.isEmpty]),
        List.singleton_append, field?,
        if_pos (by simp [Literal.fieldTrees]), read]
      rfl

theorem block?_blockTrees {alias? : Option String} {name : String}
    {arguments : Arguments} {nested : List Selection} {rest : List Tree}
    {others : List Selection}
    (nestedRead : selections? (allTrees nested) = some (allAsWritten nested))
    (restRead : selections? rest = some others) (starts : StartsSelection rest) :
    block? alias? name arguments
        ((if nested.isEmpty then [] else [.group .curly (allTrees nested)]) ++
          rest) =
      some (.field alias? name arguments (allAsWritten nested) :: others) := by
  cases nested with
  | nil =>
      rw [List.isEmpty_nil, if_pos rfl, List.nil_append, block?_none starts,
        restRead, allAsWritten]
      rfl
  | cons entry nested =>
      rw [if_neg (by simp), List.singleton_append, block?,
        if_pos (allTrees_ne_nil (by simp)), nestedRead, restRead]
      rfl

theorem head?_blockTrees {nested : List Selection} {rest : List Tree}
    (starts : StartsSelection rest) :
    ∀ tree ∈
      ((if nested.isEmpty then [] else [Tree.group .curly (allTrees nested)]) ++
        rest).head?,
      tree ≠ .token (.punctuator ':') ∧
        ∀ written, tree ≠ .group .round written := by
  intro tree head
  split at head
  · obtain ⟨token, rfl, notColon⟩ := starts tree head
    exact ⟨by simpa using notColon, by simp⟩
  · cases head
    simp

/-- Written selections are read back from their trees. -/
theorem selections?_allTrees :
    ∀ selections : List Selection, AllWritable selections →
      selections? (allTrees selections) = some (allAsWritten selections)
  | [], _ => by simp [allTrees, selections?, allAsWritten]
  | .field alias? name arguments nested :: rest, writable => by
      obtain ⟨⟨-, argumentsWritable, nestedWritable⟩, restWritable⟩ := writable
      have restRead := selections?_allTrees rest restWritable
      have nestedRead := selections?_allTrees nested nestedWritable
      have starts := startsSelection_allTrees rest
      rw [allTrees, trees, List.append_assoc, List.append_assoc,
        selections?_labelTrees, field?_argumentTrees argumentsWritable,
        block?_blockTrees nestedRead restRead starts, allAsWritten, asWritten]
      · intro written head
        exact (head?_blockTrees starts _ head).2 written rfl
      · intro head
        rw [argumentTrees] at head
        split at head
        · exact (head?_blockTrees starts _ head).1 rfl
        · cases head
  | .fragment typeCondition nested :: rest, writable => by
      obtain ⟨⟨-, nonempty, nestedWritable⟩, restWritable⟩ := writable
      have restRead := selections?_allTrees rest restWritable
      have nestedRead := selections?_allTrees nested nestedWritable
      rw [allTrees, trees]
      simp only [List.cons_append, List.nil_append]
      rw [selections?, if_pos ⟨rfl, allTrees_ne_nil nonempty⟩, nestedRead,
        restRead, allAsWritten, asWritten]
      rfl

end Selection

namespace Syntax

theorem tree?_blank (text : List Char) : tree? (' ' :: text) = tree? text :=
  readTree?_congr (token?_blank text)

theorem keyword?_keyword (kind : OperationKind) :
    keyword? kind.keyword = some kind := by
  cases kind <;> rfl

theorem isName_keyword (kind : OperationKind) :
    isName kind.keyword = true := by
  cases kind <;> decide

theorem document?_blockText (kind : OperationKind)
    {selections : List Selection} (nonempty : selections ≠ [])
    (writable : Selection.AllWritable selections)
    (aliased : Selection.Hereditary Selection.Aliased selections) :
    document? (kind.keyword ++ " " ++ Selection.blockText selections).toList =
      some ⟨kind, none, Selection.allAsWritten selections⟩ := by
  have block := (readsAsTree_braced
    (Selection.readsAll_texts selections writable aliased)).tree? .nil
  have keyword := (readsAsTree_name (isName_keyword kind)).tree?
    (.cons (by decide : ' ' ∈ boundaries) :
      Boundary (' ' :: (Selection.blockText selections).toList))
  have blockRead : tree? (' ' :: (Selection.blockText selections).toList) =
      some (.group .curly (Selection.allTrees selections), []) := by
    rw [List.append_nil] at block
    rw [tree?_blank]
    exact block
  have spaced :
      (kind.keyword ++ " " ++ Selection.blockText selections).toList =
        kind.keyword.toList ++ ' ' :: (Selection.blockText selections).toList := by
    simp
  have read := Selection.selections?_allTrees selections writable
  have filled := Selection.allTrees_ne_nil nonempty
  simp only [document?, spaced, keyword, keyword?_keyword, blockRead,
    Option.bind_eq_bind, Option.bind_some]
  rw [body?, if_pos ⟨filled, rfl⟩, read]
  rfl

end Syntax

open Syntax

/--
Writing the document of an operation loses nothing: it is read back as the
operation's kind and its sealed requests, and only equal requests have the same
document.
-/
theorem SelectionSet.document_readBack {scope : Scope} {α : Type}
    (selection : SelectionSet scope α) (kind : OperationKind)
    (nonempty : selection.selections ≠ [])
    (writable : Selection.AllWritable selection.selections) :
    document? (selection.document kind).toList =
        some ⟨kind, none, Selection.allAsWritten selection.selections⟩ ∧
      ∀ {otherScope : Scope} {β : Type} (other : SelectionSet otherScope β)
        (otherKind : OperationKind), other.selections ≠ [] →
        Selection.AllWritable other.selections →
        other.document otherKind = selection.document kind →
        otherKind = kind ∧
          Selection.allAsWritten other.selections =
            Selection.allAsWritten selection.selections := by
  have read := document?_blockText kind nonempty writable
    selection.aliased_selections
  refine ⟨read, ?_⟩
  intro otherScope β other otherKind otherNonempty otherWritable same
  have otherRead := document?_blockText otherKind otherNonempty otherWritable
    other.aliased_selections
  rw [SelectionSet.document, SelectionSet.document] at same
  rw [same, read, Option.some.injEq, Operation.mk.injEq] at otherRead
  exact ⟨otherRead.1.symm, otherRead.2.2.symm⟩

def reviewArguments : Arguments :=
  ⟨[("episode", .enum "JEDI"),
    ("review", .object
      [("stars", .int (-5)),
        ("weights", .list [.float (Binary64.ofRatio true 3 2), .float .nan]),
        ("text", .string "said: \"no\"\n")])]⟩

def reviewSelection : SelectionSet (.type "Mutation") (String × String) :=
  .build (.composite "createReview" reviewArguments (.build heroFields) .done)

theorem reviewSelection_selections :
    reviewSelection.selections =
      [.request "createReview" reviewArguments
        [.leaf "name", .leaf "__typename",
          .fragment "Droid" [.leaf "primaryFunction"],
          .fragment "Human" [.leaf "homePlanet"]]] := by
  simp [reviewSelection, heroFields, SelectionSet.selections,
    SelectionSet.seal, Cases.seal, Builder.record, Selection.mergeAll_cons,
    Selection.mergeAll_nil, Selection.insert, Selection.changeFirst?,
    Selection.sameRequest, Selection.request, Selection.leaf, Arguments.alias?,
    Arguments.isEmpty, Arguments.empty, typenameField]

theorem reviewSelection_writable :
    Selection.AllWritable reviewSelection.selections := by
  rw [reviewSelection_selections]
  have weight : number? (Binary64.ofRatio true 3 2).text.toList =
      some (.float (Binary64.ofRatio true 3 2), []) := by
    decide +kernel
  have weights : Literal.ItemsWritable
      [.float (Binary64.ofRatio true 3 2), .float .nan] :=
    ⟨fun _ => weight, fun finite => absurd finite (by decide), trivial⟩
  have arguments : Literal.FieldsWritable reviewArguments.entries :=
    ⟨by decide, ⟨by decide, by decide⟩, by decide,
      ⟨by decide, trivial, by decide, weights, by decide, trivial, trivial⟩,
      trivial⟩
  have droid : Selection.Writable (.fragment "Droid" [.leaf "primaryFunction"]) :=
    ⟨by decide, by simp, ⟨by decide, trivial, trivial⟩, trivial⟩
  have human : Selection.Writable (.fragment "Human" [.leaf "homePlanet"]) :=
    ⟨by decide, by simp, ⟨by decide, trivial, trivial⟩, trivial⟩
  exact ⟨⟨by decide, arguments, ⟨by decide, trivial, trivial⟩,
    ⟨by decide, trivial, trivial⟩, droid, human, trivial⟩, trivial⟩

theorem SelectionSet.document_readBack_review :
    reviewSelection.selections ≠ [] ∧
      Selection.AllWritable reviewSelection.selections ∧
      document? (reviewSelection.document .mutation).toList =
        some ⟨.mutation, none,
          Selection.allAsWritten reviewSelection.selections⟩ := by
  have nonempty : reviewSelection.selections ≠ [] := by
    simp [reviewSelection_selections]
  exact ⟨nonempty, reviewSelection_writable,
    (reviewSelection.document_readBack .mutation nonempty
      reviewSelection_writable).1⟩

end TypedGraphQL
