import TypedGraphQL.Proofs.Syntax.Grammar
import TypedGraphQL.Proofs.Syntax.RoundTrip

namespace TypedGraphQL

open Syntax

namespace Literal

mutual
def Named : Literal → Prop
  | enum name => isName name = true
  | list items => ItemsNamed items
  | object fields => FieldsNamed fields
  | null | boolean _ | int _ | float _ | string _ => True

def ItemsNamed : List Literal → Prop
  | [] => True
  | item :: rest => item.Named ∧ ItemsNamed rest

def FieldsNamed : List (String × Literal) → Prop
  | [] => True
  | (name, value) :: rest =>
    isName name = true ∧ value.Named ∧ FieldsNamed rest
end

mutual
def lexemes : Literal → List Lexeme
  | null => [.name "null"]
  | boolean true => [.name "true"]
  | boolean false => [.name "false"]
  | int _ => [.number]
  | float value => if value.isFinite then [.number] else [.name "null"]
  | string _ => [.string]
  | enum name => [.name name]
  | list items => enclosed '[' ']' (itemLexemes items).flatten
  | object fields =>
    enclosed '\x7b' '\x7d' ((fieldLexemes fields).flatMap pair)

def itemLexemes : List Literal → List (List Lexeme)
  | [] => []
  | item :: rest => item.lexemes :: itemLexemes rest

def fieldLexemes : List (String × Literal) → List (String × List Lexeme)
  | [] => []
  | (name, value) :: rest => (name, value.lexemes) :: fieldLexemes rest
end

theorem spells_colon {text : List Char} {lexemes : List Lexeme}
    (spells : Spells text lexemes) :
    Spells (':' :: ' ' :: text) (.punctuator ':' :: lexemes) :=
  .cons_punctuator (fun _ => rfl) spells.blank

mutual
theorem spells_text :
    ∀ value : Literal, value.Named → Spells value.text.toList value.lexemes
  | null, _ => spells_name (by decide)
  | boolean true, _ => spells_name (by decide)
  | boolean false, _ => spells_name (by decide)
  | int value, _ => spells_int value
  | float value, _ => by
      rw [text, lexemes]
      split
      next finite => exact spells_float finite
      next => exact spells_name (by decide)
  | string value, _ => spells_quote value
  | enum _, named => spells_name named
  | list items, named => by
      have inner := (spellAll_itemTexts items named).intercalate
        spellsApart_comma
      have spells := inner.group '[' ']' (fun _ => rfl) (fun _ => rfl)
        (by decide)
      rw [text, String.toList_append, String.toList_append]
      exact spells
  | object fields, named => by
      have inner := (spellAll_fieldTexts fields named).intercalate
        spellsApart_comma
      have spells := inner.group '\x7b' '\x7d' (fun _ => rfl) (fun _ => rfl)
        (by decide)
      rw [text, String.toList_append, String.toList_append]
      exact spells

theorem spellAll_itemTexts :
    ∀ items : List Literal, ItemsNamed items →
      SpellAll (itemTexts items) (itemLexemes items)
  | [], _ => .nil
  | item :: rest, named =>
      .cons (spells_text item named.1) (spellAll_itemTexts rest named.2)

theorem spellAll_fieldTexts :
    ∀ fields : List (String × Literal), FieldsNamed fields →
      SpellAll (fieldTexts fields) ((fieldLexemes fields).map pair)
  | [], _ => .nil
  | (name, value) :: rest, named => by
      have field := (spells_name named.1).append
        (spells_colon (spells_text value named.2.1)) (.cons (by decide))
      refine .cons ?_ (spellAll_fieldTexts rest named.2.2)
      rw [String.toList_append, String.toList_append, List.append_assoc]
      exact field
end

mutual
theorem isValue_lexemes {constant : Bool} :
    ∀ value : Literal, IsValue constant value.lexemes
  | null | boolean true | boolean false => .name
  | int _ => .number
  | float value => by
      rw [lexemes]
      split
      · exact .number
      · exact .name
  | string _ => .string
  | enum _ => .name
  | list items => .list (isValue_itemLexemes items)
  | object fields => .object (isValue_fieldLexemes fields)

theorem isValue_itemLexemes {constant : Bool} :
    ∀ items : List Literal,
      ∀ item ∈ itemLexemes items, IsValue constant item
  | [], _, member => by simp [itemLexemes] at member
  | value :: rest, item, member => by
      rw [itemLexemes, List.mem_cons] at member
      rcases member with rfl | later
      · exact isValue_lexemes value
      · exact isValue_itemLexemes rest item later

theorem isValue_fieldLexemes {constant : Bool} :
    ∀ fields : List (String × Literal),
      ∀ field ∈ fieldLexemes fields, IsValue constant field.2
  | [], _, member => by simp [fieldLexemes] at member
  | (_, value) :: rest, field, member => by
      rw [fieldLexemes, List.mem_cons] at member
      rcases member with rfl | later
      · exact isValue_lexemes value
      · exact isValue_fieldLexemes rest field later
end

end Literal

namespace Arguments

def lexemes (arguments : Arguments) : List Lexeme :=
  if arguments.isEmpty then []
  else enclosed '(' ')' ((Literal.fieldLexemes arguments.entries).flatMap pair)

theorem spells_text {arguments : Arguments}
    (named : Literal.FieldsNamed arguments.entries) :
    Spells arguments.text.toList arguments.lexemes ∧
      Apart arguments.text.toList := by
  rw [text, lexemes]
  split
  next => exact ⟨.nil, .nil⟩
  next =>
    have inner := (Literal.spellAll_fieldTexts _ named).intercalate
      spellsApart_comma
    have spells := inner.group '(' ')' (fun _ => rfl) (fun _ => rfl)
      (by decide)
    rw [String.toList_append, String.toList_append]
    exact ⟨spells, .cons (by decide)⟩

theorem isArguments_lexemes (arguments : Arguments) :
    Maybe (IsArguments false) arguments.lexemes := by
  rw [lexemes]
  split
  next => exact .inl rfl
  next given =>
    refine .inr (.given ?_ (Literal.isValue_fieldLexemes _))
    intro empty
    apply given
    rw [isEmpty]
    cases entries : arguments.entries with
    | nil => rfl
    | cons entry rest => simp [entries, Literal.fieldLexemes] at empty

end Arguments

/-! Selections -/

namespace Selection

def Named : Selection → Prop
  | field _ name arguments _ =>
    isName name = true ∧ Literal.FieldsNamed arguments.entries
  | fragment typeCondition _ => isName typeCondition = true

/-- A fragment asks for something. -/
def Asking : Selection → Prop
  | field _ _ _ _ => True
  | fragment _ selections => selections ≠ []

/-- So does the whole selection, and every fragment in it. -/
def Filled (selections : List Selection) : Prop :=
  selections ≠ [] ∧ Hereditary Asking selections

def labelLexemes (alias? : Option String) (name : String) : List Lexeme :=
  match alias? with
  | some key => [.name key, .punctuator ':', .name name]
  | none => [.name name]

mutual
def lexemes : Selection → List Lexeme
  | field alias? name arguments selections =>
    labelLexemes alias? name ++ (arguments.lexemes ++
      if selections.isEmpty then []
      else enclosed '\x7b' '\x7d' (allLexemes selections).flatten)
  | fragment typeCondition selections =>
    .spread :: .name "on" :: .name typeCondition ::
      enclosed '\x7b' '\x7d' (allLexemes selections).flatten

def allLexemes : List Selection → List (List Lexeme)
  | [] => []
  | entry :: rest => entry.lexemes :: allLexemes rest
end

theorem spells_spread : Spells ['.', '.', '.'] [.spread] :=
  .lexeme fun _ _ => rfl

theorem spells_label {alias? : Option String} {name : String}
    {arguments : Arguments} (named : isName name = true)
    (hasAlias : alias? = arguments.alias? name) :
    Spells
      (match alias? with
        | some key => key ++ ": " ++ name
        | none => name).toList
      (labelLexemes alias? name) := by
  have nameSpells := spells_name named
  cases alias? with
  | none => exact nameSpells
  | some key =>
      have keyNamed : isName key = true := by
        rw [Arguments.alias?] at hasAlias
        split at hasAlias
        · contradiction
        · cases hasAlias
          exact isName_append_fingerprint arguments named
      have spells := (spells_name keyNamed).append
        (Literal.spells_colon nameSpells) (.cons (by decide))
      simp only [String.toList_append, List.append_assoc]
      exact spells

theorem spells_braced {texts : List String} {parts : List (List Lexeme)}
    (spell : SpellAll texts parts) :
    Spells (braced (" ".intercalate texts)).toList
      (enclosed '\x7b' '\x7d' parts.flatten) := by
  have inner := (spell.intercalate spellsApart_blank).append Spells.nil.blank
    (.cons (by decide))
  have spells := inner.blank.group '\x7b' '\x7d' (fun _ => rfl) (fun _ => rfl)
    (by decide)
  rw [List.append_nil] at spells
  rw [braced, String.toList_append, String.toList_append]
  simpa using spells

def Spellable (entry : Selection) : Prop :=
  entry.Named ∧ entry.Aliased

mutual
theorem spells_text :
    ∀ entry : Selection, entry.Spellable →
      Hereditary Spellable entry.children →
      Spells entry.text.toList entry.lexemes
  | field alias? name arguments selections, ⟨⟨named, argumentsNamed⟩, hasAlias⟩,
      below => by
      have label := spells_label named hasAlias
      obtain ⟨argumentsSpell, argumentsApart⟩ :=
        Arguments.spells_text argumentsNamed
      have block : Spells
          (if selections.isEmpty then ""
            else " " ++ braced (" ".intercalate (texts selections))).toList
          (if selections.isEmpty then []
            else enclosed '\x7b' '\x7d' (allLexemes selections).flatten) ∧
          Apart (if selections.isEmpty then ""
            else " " ++ braced (" ".intercalate (texts selections))).toList := by
        split
        next => exact ⟨.nil, .nil⟩
        next =>
          have braces := spells_braced (spellAll_texts selections below)
          rw [String.toList_append]
          exact ⟨braces.blank, .cons (by decide)⟩
      rw [text.eq_def, lexemes]
      simp only [String.toList_append, List.append_assoc]
      exact label.append (argumentsSpell.append block.1 block.2)
        (argumentsApart.append block.2)
  | fragment typeCondition selections, ⟨named, _⟩, below => by
      have braces := spells_braced (spellAll_texts selections below)
      have condition := (spells_name named).append braces.blank
        (.cons (by decide))
      have spells := spells_spread.append
        ((spells_name (by decide : isName "on" = true)).append condition.blank
          (.cons (by decide))).blank (.cons (by decide))
      rw [text, lexemes]
      simpa using spells

theorem spellAll_texts :
    ∀ selections : List Selection, Hereditary Spellable selections →
      SpellAll (texts selections) (allLexemes selections)
  | [], _ => .nil
  | entry :: rest, spellable => by
      obtain ⟨⟨here, below⟩, later⟩ := hereditary_cons.mp spellable
      exact .cons (spells_text entry here below) (spellAll_texts rest later)
end

/-! The lexemes of selections that all ask for something are in the grammar. -/

theorem isLabel_labelLexemes (alias? : Option String) (name : String) :
    IsLabel (labelLexemes alias? name) := by
  cases alias? with
  | none => exact .name
  | some key => exact .keyed

theorem allLexemes_ne_nil {selections : List Selection}
    (nonempty : selections ≠ []) : allLexemes selections ≠ [] := by
  cases selections with
  | nil => contradiction
  | cons entry rest => simp [allLexemes]

mutual
theorem isSelection_lexemes :
    ∀ entry : Selection, entry.Asking → Hereditary Asking entry.children →
      IsSelection entry.lexemes
  | field alias? name arguments selections, _, below => by
      have label := isLabel_labelLexemes alias? name
      have given := arguments.isArguments_lexemes
      have nested := isSelection_allLexemes selections below
      rw [lexemes]
      split
      next =>
        have leaf := IsSelection.field label given .none
        rwa [List.append_nil] at leaf ⊢
      next more =>
        have nonempty : selections ≠ [] := by simpa using more
        exact .fieldWith label given .none (allLexemes_ne_nil nonempty) nested
  | fragment typeCondition selections, asking, below => by
      have nested := isSelection_allLexemes selections below
      exact .inline (.inr .on) .none (allLexemes_ne_nil asking) nested

theorem isSelection_allLexemes :
    ∀ selections : List Selection, Hereditary Asking selections →
      ∀ part ∈ allLexemes selections, IsSelection part
  | [], _, part, member => by simp [allLexemes] at member
  | entry :: rest, asking, part, member => by
      obtain ⟨⟨here, below⟩, later⟩ := hereditary_cons.mp asking
      rw [allLexemes, List.mem_cons] at member
      rcases member with rfl | inRest
      · exact isSelection_lexemes entry here below
      · exact isSelection_allLexemes rest later part inRest
end

/-! Conversely, a scan that passes the lexemes has seen nothing empty. -/

theorem filled_label (alias? : Option String) (name : String)
    (arguments : Arguments) (opened : Bool) (rest : List Lexeme) :
    filled 0 opened (labelLexemes alias? name ++ (arguments.lexemes ++ rest)) =
      filled 0 false rest := by
  have label : Sound 0 _ := (isLabel_labelLexemes alias? name).sound
  have given : Sound 0 _ :=
    .maybe arguments.isArguments_lexemes IsArguments.sound
  have nonempty : (labelLexemes alias? name).isEmpty = false := by
    cases alias? <;> rfl
  rw [label, given, nonempty, Bool.and_false, Bool.false_and]

theorem filled_of_filled_block {opened : Bool} {lexemes rest : List Lexeme}
    (scanned : filled 0 opened (enclosed '\x7b' '\x7d' lexemes ++ rest) = true) :
    filled 0 true (lexemes ++ .punctuator '\x7d' :: rest) = true := by
  simpa [enclosed, filled] using scanned

theorem not_opened_of_filled {opened : Bool} {rest : List Lexeme}
    (scanned : filled 0 opened (.punctuator '\x7d' :: rest) = true) :
    opened = false ∧ filled 0 false rest = true := by
  simpa [filled] using scanned

mutual
theorem asking_of_filled :
    ∀ entry : Selection, ∀ opened rest,
      filled 0 opened (entry.lexemes ++ rest) = true →
      entry.Asking ∧ Hereditary Asking entry.children ∧
        filled 0 false rest = true
  | field alias? name arguments selections, opened, rest, scanned => by
      rw [lexemes, List.append_assoc, List.append_assoc, filled_label] at scanned
      refine ⟨trivial, ?_⟩
      split at scanned
      next none =>
        rw [children, List.isEmpty_iff.mp none]
        exact ⟨.nil, scanned⟩
      next =>
        obtain ⟨asking, scanned⟩ := allAsking_of_filled selections _ _
          (filled_of_filled_block scanned)
        exact ⟨asking, (not_opened_of_filled scanned).2⟩
  | fragment typeCondition selections, opened, rest, scanned => by
      obtain ⟨asking, scanned⟩ := allAsking_of_filled selections _ _
        (@filled_of_filled_block false _ _ scanned)
      obtain ⟨nonempty, scanned⟩ := not_opened_of_filled scanned
      exact ⟨by simpa [Asking] using nonempty, asking, scanned⟩

theorem allAsking_of_filled :
    ∀ selections : List Selection, ∀ opened rest,
      filled 0 opened ((allLexemes selections).flatten ++ rest) = true →
      Hereditary Asking selections ∧
        filled 0 (opened && selections.isEmpty) rest = true
  | [], opened, rest, scanned => by
      rw [List.isEmpty_nil, Bool.and_true]
      exact ⟨.nil, scanned⟩
  | entry :: others, opened, rest, scanned => by
      rw [allLexemes, List.flatten_cons, List.append_assoc] at scanned
      obtain ⟨here, below, scanned⟩ := asking_of_filled entry _ _ scanned
      obtain ⟨later, scanned⟩ := allAsking_of_filled others _ _ scanned
      refine ⟨hereditary_cons.mpr ⟨⟨here, below⟩, later⟩, ?_⟩
      simpa using scanned
end

def documentLexemes (kind : OperationKind) (name? : Option String)
    (selections : List Selection) : List Lexeme :=
  .name kind.keyword :: (name?.toList.map .name ++
    enclosed '\x7b' '\x7d' (allLexemes selections).flatten)

theorem isDocument_documentLexemes_iff (kind : OperationKind)
    (name? : Option String) (selections : List Selection) :
    IsDocument (documentLexemes kind name? selections) ↔ Filled selections := by
  constructor
  · intro document
    have scanned := document.filled
    have front : filled 0 false (documentLexemes kind name? selections ++ []) =
        filled 0 false
          (enclosed '\x7b' '\x7d' (allLexemes selections).flatten ++ []) := by
      cases name? <;> rfl
    rw [← List.append_nil (documentLexemes _ _ _), front] at scanned
    obtain ⟨asking, scanned⟩ :=
      allAsking_of_filled selections _ _ (filled_of_filled_block scanned)
    exact ⟨by simpa using (not_opened_of_filled scanned).1, asking⟩
  · rintro ⟨nonempty, asking⟩
    have selects := IsSelectionSet.selections (allLexemes_ne_nil nonempty)
      (isSelection_allLexemes selections asking)
    have operates : kind.keyword ∈ operationKeywords := by
      cases kind <;> decide
    have definition := @IsDefinition.operation [] [] [] _ _ name? (.inl rfl)
      operates (.inl rfl) .none selects
    have document := IsDocument.definitions (List.cons_ne_nil _ [])
      (List.forall_mem_singleton.mpr definition)
    simpa [documentLexemes] using document

theorem spells_document (kind : OperationKind) {selections : List Selection}
    (spellable : Hereditary Spellable selections) :
    Spells (kind.keyword ++ " " ++ blockText selections).toList
        (documentLexemes kind none selections) ∧
      ∀ name, isName name = true →
        Spells
          (kind.keyword ++ " " ++ name ++ " " ++ blockText selections).toList
          (documentLexemes kind (some name) selections) := by
  have block := spells_braced (spellAll_texts selections spellable)
  have keyword := spells_name (isName_keyword kind)
  refine ⟨?_, fun name named => ?_⟩
  · have spells := keyword.append block.blank (.cons (by decide))
    simpa [blockText, listText, documentLexemes] using spells
  · have rest := (spells_name named).append block.blank (.cons (by decide))
    have spells := keyword.append rest.blank (.cons (by decide))
    simpa [blockText, listText, documentLexemes] using spells

end Selection

theorem Syntax.Spells.isSentence_iff {text : String} {lexemes : List Lexeme}
    (spells : Spells text.toList lexemes) :
    IsSentence text ↔ IsDocument lexemes := by
  have lexed : Lexed text.toList lexemes := by
    have whole := spells [] [] .nil (.nil rfl)
    rwa [List.append_nil, List.append_nil] at whole
  constructor
  · rintro ⟨others, otherLexed, document⟩
    rwa [lexed.unique otherLexed]
  · intro document
    exact ⟨lexemes, lexed, document⟩

theorem SelectionSet.spellable_selections {scope : Scope} {α : Type}
    (selection : SelectionSet scope α)
    (named : Selection.Hereditary Selection.Named selection.selections) :
    Selection.Hereditary Selection.Spellable selection.selections :=
  fun selections reached entry member =>
    ⟨named selections reached entry member,
      selection.aliased_selections selections reached entry member⟩

/--
The documents of a selection are executable documents exactly if the selection
and every fragment in it ask for something.
-/
theorem SelectionSet.document_isSentence_iff {scope : Scope} {α : Type}
    (selection : SelectionSet scope α) (kind : OperationKind)
    (named : Selection.Hereditary Selection.Named selection.selections) :
    (IsSentence (selection.document kind) ↔
        Selection.Filled selection.selections) ∧
      ∀ name, isName name = true →
        (IsSentence (selection.documentNamed kind name) ↔
          Selection.Filled selection.selections) := by
  obtain ⟨plain, titled⟩ :=
    Selection.spells_document kind (selection.spellable_selections named)
  refine ⟨?_, fun name isName => ?_⟩
  · rw [← Selection.isDocument_documentLexemes_iff kind none]
    exact plain.isSentence_iff
  · rw [← Selection.isDocument_documentLexemes_iff kind (some name)]
    exact (titled name isName).isSentence_iff

theorem SelectionSet.document_isSentence_hero :
    Selection.Hereditary Selection.Named heroSelection.selections ∧
      isName "Hero" = true ∧
      IsSentence (heroSelection.document .query) ∧
      IsSentence (heroSelection.documentNamed .query "Hero") := by
  have named : Selection.Hereditary Selection.Named heroSelection.selections := by
    rw [heroSelection_selections]
    simp [Selection.hereditary_cons, Selection.Named, Selection.children,
      Selection.Hereditary.nil, Selection.request, Selection.leaf,
      Literal.FieldsNamed, Literal.Named, Arguments.empty]
    decide
  have filled : Selection.Filled heroSelection.selections := by
    rw [heroSelection_selections]
    refine ⟨by simp, ?_⟩
    simp [Selection.hereditary_cons, Selection.Asking, Selection.children,
      Selection.Hereditary.nil, Selection.request, Selection.leaf]
  obtain ⟨plain, titled⟩ := heroSelection.document_isSentence_iff .query named
  exact ⟨named, by decide, plain.mpr filled,
    (titled "Hero" (by decide)).mpr filled⟩

def droidFields : Builder "Character" Unit :=
  .fragments (.cons "Droid" (.build (.done ())) .nil) .done

def bareDroidSelection : SelectionSet (.type "Query") Unit :=
  .build (.composite "hero" .empty (.build droidFields) .done)

theorem bareDroidSelection_selections :
    bareDroidSelection.selections =
      [.field none "hero" .empty [.leaf "__typename", .fragment "Droid" []]] := by
  simp [bareDroidSelection, droidFields, SelectionSet.selections,
    SelectionSet.seal, Cases.seal, Builder.record, Selection.mergeAll_cons,
    Selection.mergeAll_nil, Selection.insert, Selection.changeFirst?,
    Selection.sameRequest, Selection.request, Selection.leaf, Arguments.alias?,
    Arguments.isEmpty, Arguments.empty, typenameField]

theorem SelectionSet.bareDroid_document_not_isSentence :
    Selection.Hereditary Selection.Named bareDroidSelection.selections ∧
      bareDroidSelection.document .query =
        "query \x7b hero \x7b __typename ... on Droid \x7b  \x7d \x7d \x7d" ∧
      ¬ IsSentence (bareDroidSelection.document .query) := by
  have named : Selection.Hereditary Selection.Named
      bareDroidSelection.selections := by
    rw [bareDroidSelection_selections]
    simp [Selection.hereditary_cons, Selection.Named, Selection.children,
      Selection.Hereditary.nil, Selection.leaf, Literal.FieldsNamed,
      Arguments.empty]
    decide
  have spells := (Selection.spells_document .query
    (bareDroidSelection.spellable_selections named)).1
  refine ⟨named, ?_, ?_⟩
  · rw [SelectionSet.document, bareDroidSelection_selections]
    decide
  · rw [SelectionSet.document, spells.isSentence_iff,
      Selection.isDocument_documentLexemes_iff, bareDroidSelection_selections]
    simp [Selection.Filled, Selection.hereditary_cons, Selection.Asking,
      Selection.children, Selection.leaf]

end TypedGraphQL
