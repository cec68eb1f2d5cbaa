import TypedGraphQL.Proofs.Binding.Declaration
import TypedGraphQL.Proofs.Binding.Scope
import TypedGraphQL.Proofs.Text.Quoted

namespace TypedGraphQL

open Code (Remark)
open Syntax (isName)

namespace Member

def deprecation (member : Member) : Option String :=
  if member.isDeprecated then some (member.deprecationReason.getD "") else none

def describedLines (member : Member) : Option (List String) :=
  member.description.bind fun text =>
    let trimmed := Text.trim text.toList
    if trimmed = [] then none
    else
      some ((Text.lines trimmed).map fun line =>
        String.ofList (Text.trimEnd line))

end Member

structure CaseBlock where
  name : String
  variant : String
  deprecation : Option String
  description : Option (List String)
deriving DecidableEq, Repr

namespace CaseBlock

def comment (text : String) : String :=
  margin ++ if text.isEmpty then "///" else "/// " ++ text

def deprecatedFront : String := margin ++ "#[deprecated(note = "

def renameFront : String := margin ++ "#[serde(rename = "

def attributes (block : CaseBlock) : List String :=
  (block.deprecation.map fun reason =>
      deprecatedFront ++ Text.quoted reason ++ ")]").toList
    ++ [renameFront ++ Text.quoted block.name ++ ")]",
        margin ++ block.variant ++ ","]

def lines (block : CaseBlock) : List String :=
  (block.description.getD []).map comment ++ block.attributes

def spaced : List (List (List Char)) → List (List Char)
  | [] => [[]]
  | block :: blocks => [[]].intercalate (block :: blocks)

def comment? (line : List Char) : Option String :=
  ((margin ++ "///").toList.isPrefixOf? line).bind fun text =>
    match text with
    | [] => some ""
    | ' ' :: text => some (String.ofList text)
    | _ => none

def comments : List (List Char) → List String × List (List Char)
  | [] => ([], [])
  | line :: rest =>
    match comment? line with
    | some text => (text :: (comments rest).1, (comments rest).2)
    | none => ([], line :: rest)

def attribute? (front : String) (line : List Char) : Option String :=
  (Text.literalBetween? front ")]" line).bind fun (content, rest) =>
    if rest.isEmpty then some content else none

def deprecations : List (List Char) → Option String × List (List Char)
  | [] => (none, [])
  | line :: rest =>
    match attribute? deprecatedFront line with
    | some reason => (some reason, rest)
    | none => (none, line :: rest)

def variant? (line : List Char) : Option String :=
  (margin.toList.isPrefixOf? line).bind fun text =>
    if text.getLast? = some ',' then some (String.ofList text.dropLast) else none

def read? (block : List (List Char)) : Option CaseBlock :=
  let (description, rest) := comments block
  let (deprecation, rest) := deprecations rest
  match rest with
  | [rename, variant] =>
    (attribute? renameFront rename).bind fun name =>
      (variant? variant).map fun variant =>
        { name, variant, deprecation
          description := if description.isEmpty then none else some description }
  | _ => none

def apart (body : List (List Char)) : List (List (List Char)) :=
  if body = [[]] then [] else body.splitOn []

def body? (identifier text : String) : Option (List (List Char)) :=
  ((Code.lines ("pub enum " ++ identifier ++ " \x7b")).isPrefixOf?
      ((Code.lines text).dropWhile Code.isPreamble)).bind fun lines =>
    if lines.getLast? = some ['\x7d'] then some lines.dropLast else none

def readAll? (identifier text : String) : Option (List CaseBlock) :=
  (body? identifier text).bind fun lines => (apart lines).mapM read?

theorem comment?_comment (text : String) :
    comment? (comment text).toList = some text := by
  rw [comment]
  split
  next empty =>
    obtain rfl := String.isEmpty_iff.mp empty
    decide
  next =>
    have split : (margin ++ ("/// " ++ text)).toList =
        (margin ++ "///").toList ++ ' ' :: text.toList := by
      simp [margin]
    rw [comment?, split, Text.isPrefixOf?_append]
    simp

theorem comments_append (texts : List String) {rest : List (List Char)}
    (other : ∀ line ∈ rest.head?, comment? line = none) :
    comments ((texts.map comment).map String.toList ++ rest) = (texts, rest) := by
  induction texts with
  | nil =>
      cases rest with
      | nil => rfl
      | cons line rest => simp [comments, other line rfl]
  | cons text texts ih =>
      simp only [List.map_cons, List.cons_append, comments, comment?_comment, ih]

theorem attribute?_quoted (front content : String) :
    attribute? front (front ++ Text.quoted content ++ ")]").toList =
      some content := by
  have read := Text.literalBetween?_quoted front ")]" content []
  rw [List.append_nil] at read
  rw [attribute?, read]
  rfl

theorem variant?_line (variant : String) :
    variant? (margin ++ variant ++ ",").toList = some variant := by
  rw [String.append_assoc, String.toList_append, variant?,
    Text.isPrefixOf?_append]
  simp

theorem comment?_attribute {front : String}
    (isFront : front ∈ [deprecatedFront, renameFront]) (text : List Char) :
    comment? (front.toList ++ text) = none := by
  simp only [List.mem_cons, List.not_mem_nil, or_false] at isFront
  rcases isFront with rfl | rfl <;>
    simp [comment?, deprecatedFront, renameFront, margin, List.isPrefixOf?]

theorem attribute?_rename (text : List Char) :
    attribute? deprecatedFront (renameFront.toList ++ text) = none := by
  simp [attribute?, Text.literalBetween?, deprecatedFront, renameFront, margin,
    List.isPrefixOf?]

theorem head?_attributes (block : CaseBlock) :
    ∀ line ∈ (block.attributes.map String.toList).head?, comment? line = none := by
  rw [attributes]
  cases block.deprecation with
  | none => simp [comment?_attribute]
  | some reason => simp [comment?_attribute]

theorem deprecations_attributes (block : CaseBlock) :
    deprecations (block.attributes.map String.toList) =
      (block.deprecation,
        [(renameFront ++ Text.quoted block.name ++ ")]").toList,
          (margin ++ block.variant ++ ",").toList]) := by
  rw [attributes]
  cases block.deprecation with
  | none => simp [deprecations, attribute?_rename]
  | some reason => simp only [Option.map_some, Option.toList_some,
      List.singleton_append, List.map_cons, deprecations, attribute?_quoted,
      List.map_nil]

theorem read?_lines {block : CaseBlock} (described : block.description ≠ some []) :
    read? (block.lines.map String.toList) = some block := by
  have comment : (if (block.description.getD []).isEmpty then none
      else some (block.description.getD [])) = block.description := by
    cases found : block.description with
    | none => rfl
    | some texts => simp_all
  rw [read?, lines, List.map_append, comments_append _ block.head?_attributes]
  dsimp only
  rw [deprecations_attributes]
  dsimp only
  rw [attribute?_quoted, variant?_line, comment]
  rfl

end CaseBlock

namespace Code

def Blank (line : List Char) : Prop :=
  ∀ c ∈ line, Text.isBlank c = true

theorem not_blank_of_mem {line : List Char} {c : Char} (member : c ∈ line)
    (shows : Text.isBlank c = false) : ¬ Blank line := by
  intro blank
  simp [blank c member] at shows

theorem not_blank_of_isPreamble {line : List Char}
    (preamble : isPreamble line = true) : ¬ Blank line := by
  rw [isPreamble, Bool.or_eq_true, List.isPrefixOf_iff_prefix,
    List.isPrefixOf_iff_prefix] at preamble
  rcases preamble with slashes | hash
  · exact not_blank_of_mem (c := '/') (slashes.subset (by decide)) (by decide)
  · exact not_blank_of_mem (c := '#') (hash.subset (by decide)) (by decide)

end Code

open Code (Blank not_blank_of_mem)

namespace CaseBlock

theorem not_blank_of_mem_lines {block : CaseBlock} :
    ∀ line ∈ block.lines.map String.toList, ¬ Blank line := by
  simp only [lines, attributes, List.map_append, List.forall_mem_append,
    List.forall_mem_map]
  refine ⟨fun text _ => ?_, fun line member => ?_, ?_⟩
  · refine not_blank_of_mem (c := '/') ?_ (by decide)
    rw [comment]
    split <;> simp
  · obtain ⟨reason, -, rfl⟩ := Option.map_eq_some_iff.mp
      (Option.mem_toList.mp member)
    exact not_blank_of_mem (c := '#') (by simp [deprecatedFront]) (by decide)
  · simp only [List.forall_mem_cons]
    refine ⟨not_blank_of_mem (c := '#') (by simp [renameFront]) (by decide),
      not_blank_of_mem (c := ',') (by simp) (by decide), by simp⟩

theorem lines_joinParagraphs (texts : List String) :
    Code.lines (Text.joinParagraphs texts) = spaced (texts.map Code.lines) := by
  cases texts with
  | nil => rfl
  | cons text texts => exact Code.lines_joinParagraphs (List.cons_ne_nil _ _)

theorem apart_spaced {blocks : List (List (List Char))}
    (each : ∀ block ∈ blocks, block ≠ [] ∧ [] ∉ block) :
    apart (spaced blocks) = blocks := by
  cases blocks with
  | nil => rfl
  | cons block blocks =>
      have split : (spaced (block :: blocks)).splitOn [] = block :: blocks :=
        List.splitOn_intercalate [] (fun block member => (each block member).2)
          (List.cons_ne_nil _ _)
      rw [apart, if_neg, split]
      intro single
      rw [single] at split
      obtain ⟨rfl, -⟩ := List.cons.inj split
      exact (each [] List.mem_cons_self).1 rfl

end CaseBlock

def EnumCase.block (case : EnumCase) : CaseBlock where
  name := case.value.name
  variant := case.variant
  deprecation := case.value.deprecation
  description := case.value.describedLines

theorem DocComment.line_eq_comment (text : List Char) :
    line margin text = CaseBlock.comment (String.ofList (Text.trimEnd text)) := by
  rw [line, CaseBlock.comment]
  cases Text.trimEnd text with
  | nil => rfl
  | cons c rest => simp [String.append_assoc]

theorem memberLines_eq (member : Member) :
    memberLines margin member =
      (member.describedLines.getD []).map CaseBlock.comment
        ++ deprecationLines margin member := by
  rw [memberLines, DocComment.text?, Member.describedLines]
  cases member.description with
  | none => rfl
  | some text =>
      by_cases empty : Text.trim text.toList = []
      · simp [empty]
      · simp [empty, DocComment.lines, DocComment.line_eq_comment]

namespace EnumCase

variable (case : EnumCase)

theorem lines_block :
    case.block.lines = memberLines margin case.value
      ++ [margin ++ "#[serde(rename = " ++ Text.quoted case.value.name ++ ")]",
          margin ++ case.variant ++ ","] := by
  rw [memberLines_eq, deprecationLines, CaseBlock.lines, CaseBlock.attributes]
  dsimp only [block]
  rw [Member.deprecation]
  split <;> simp [CaseBlock.deprecatedFront, CaseBlock.renameFront]

theorem lines_declaration (unbroken : '\n' ∉ case.variant.toList) :
    Code.lines case.declaration = case.block.lines.map String.toList := by
  rw [lines_block, declaration, Code.lines_joinLines_of_unbroken (by simp)]
  refine List.forall_mem_append.mpr
    ⟨fun line member => (plain_of_mem_memberLines member).1, ?_⟩
  simp [margin, Text.unbroken_quoted, unbroken]

theorem described_block : case.block.description ≠ some [] := by
  dsimp only [block, Member.describedLines]
  cases case.value.description with
  | none => simp
  | some text =>
      rw [Option.bind_some]
      split
      · simp
      next begun => simpa using Text.lines_ne_nil begun

end EnumCase

namespace Generator

variable (generator : Generator)

theorem map_said_enumCases {α : Type} (said : EnumValue → α)
    (values : List EnumValue) :
    (generator.enumCases values).map (fun case => said case.value) =
      values.map said := by
  rw [enumCases, ← List.map_uncurry_zip_eq_zipWith, List.map_map]
  calc
    _ = ((values.zip _).map Prod.fst).map said := List.map_map.symm
    _ = values.map said := by rw [List.map_fst_zip (by simp)]

theorem map_variant_enumCases (values : List EnumValue) :
    (generator.enumCases values).map (·.variant) =
      IdentifierPolicy.unique
        (values.map (generator.policy.variantIdentifier ·.name)) := by
  rw [enumCases, ← List.map_uncurry_zip_eq_zipWith, List.map_map]
  exact List.map_snd_zip (by simp)

theorem unbroken_enumVariant {values : List EnumValue} {case : EnumCase}
    (member : case ∈ generator.enumCases values) : '\n' ∉ case.variant.toList := by
  have inVariants := List.mem_map_of_mem (f := EnumCase.variant) member
  rw [map_variant_enumCases] at inVariants
  refine IdentifierPolicy.unbroken_of_mem_unique ?_ inVariants
  exact List.forall_mem_map.mpr fun value _ =>
    IdentifierPolicy.unbroken_variantIdentifier value.name

variable (name : String) (description : Option String) (values : List EnumValue)

def enumBlocks : List (List (List Char)) :=
  (generator.enumCases values).map fun case => case.block.lines.map String.toList

theorem lines_enumDeclaration :
    Code.lines (generator.enumDeclaration name description values) =
      (generator.enumRemarks name description).map String.toList
        ++ Code.lines ("pub enum " ++ generator.policy.typeIdentifier name ++ " \x7b")
        ++ CaseBlock.spaced (generator.enumBlocks values) ++ [['\x7d']] := by
  have remarks := Code.flatMap_lines fun line member =>
    (@remark_of_mem_enumRemarks generator name description line member).2
  have body : Code.lines (Text.joinParagraphs
      ((generator.enumCases values).map EnumCase.declaration)) =
        CaseBlock.spaced (generator.enumBlocks values) := by
    rw [CaseBlock.lines_joinParagraphs, List.map_map, enumBlocks]
    refine congrArg _ (List.map_congr_left fun case member => ?_)
    exact case.lines_declaration (generator.unbroken_enumVariant member)
  have closing : Code.lines "\x7d" = [['\x7d']] := rfl
  rw [enumDeclaration_eq, Code.lines_joinLines (by simp), List.flatMap_append,
    remarks]
  simp [body, closing]

theorem shown_of_mem_enumBlocks :
    ∀ block ∈ generator.enumBlocks values,
      block ≠ [] ∧ ∀ line ∈ block, ¬ Blank line := by
  refine List.forall_mem_map.mpr fun case _ =>
    ⟨?_, CaseBlock.not_blank_of_mem_lines⟩
  simp [CaseBlock.lines, CaseBlock.attributes]

theorem mapM_read?_enumBlocks :
    (generator.enumBlocks values).mapM CaseBlock.read? =
      some ((generator.enumCases values).map EnumCase.block) := by
  have each : (fun case : EnumCase =>
      CaseBlock.read? (case.block.lines.map String.toList)) =
        fun case => some case.block :=
    funext fun case => CaseBlock.read?_lines case.described_block
  rw [enumBlocks, List.mapM_map]
  exact (congrArg (List.mapM · _) each).trans List.mapM_pure

theorem dropWhile_enumDeclaration :
    (Code.lines (generator.enumDeclaration name description values)).dropWhile
        Code.isPreamble =
      Code.lines ("pub enum " ++ generator.policy.typeIdentifier name ++ " \x7b")
        ++ (CaseBlock.spaced (generator.enumBlocks values) ++ [['\x7d']]) := by
  have head : ("pub enum " ++ generator.policy.typeIdentifier name
      ++ " \x7b").toList.head? = some 'p' := by
    simp
  obtain ⟨first, later, split⟩ := Code.exists_lines_of_head? head (by decide)
  rw [lines_enumDeclaration, List.append_assoc, List.append_assoc,
    List.dropWhile_append_of_pos, split]
  · rfl
  · exact List.forall_mem_map.mpr fun line member =>
      (remark_of_mem_enumRemarks line member).1

theorem readAll?_enumDeclaration :
    CaseBlock.readAll? (generator.policy.typeIdentifier name)
        (generator.enumDeclaration name description values) =
      some ((generator.enumCases values).map EnumCase.block) := by
  have spaced : CaseBlock.apart
      (CaseBlock.spaced (generator.enumBlocks values)) =
        generator.enumBlocks values := by
    refine CaseBlock.apart_spaced fun block member => ?_
    obtain ⟨begun, shown⟩ := generator.shown_of_mem_enumBlocks values block member
    exact ⟨begun, fun empty => shown [] empty (by simp [Blank])⟩
  rw [CaseBlock.readAll?, CaseBlock.body?, dropWhile_enumDeclaration,
    Text.isPrefixOf?_append, Option.bind_some, List.getLast?_concat,
    List.dropLast_concat, if_pos rfl, Option.bind_some, spaced,
    mapM_read?_enumBlocks]

/--
The lines of a declaration: its opening, the blocks of its values with blank
lines between them and nowhere else, and what the blocks say of the values.
-/
structure EnumLayout (text : String) (opening : List (List Char))
    (blocks : List (List (List Char))) (readings : List CaseBlock) : Prop where
  whole : Code.lines text = opening ++ CaseBlock.spaced blocks ++ [['\x7d']]
  opens : opening.getLast? =
    some ("pub enum " ++ generator.policy.typeIdentifier name ++ " \x7b").toList
  openingShown : ∀ line ∈ opening, ¬ Blank line
  blocksShown : ∀ block ∈ blocks, block ≠ [] ∧ ∀ line ∈ block, ¬ Blank line
  blocksRead : blocks.mapM CaseBlock.read? = some readings
  textRead :
    CaseBlock.readAll? (generator.policy.typeIdentifier name) text = some readings
  names : readings.map (·.name) = values.map (·.name)
  variants : readings.map (·.variant) =
    IdentifierPolicy.unique
      (values.map (generator.policy.variantIdentifier ·.name))
  deprecations : readings.map (·.deprecation) = values.map (·.deprecation)
  descriptions : readings.map (·.description) = values.map (·.describedLines)

/--
Whatever descriptions and reasons look like, blank lines stand only between the
blocks of two values, and the lines say of each value what the schema says.
-/
theorem enumDeclaration_readBack (named : isName name = true) :
    ∃ opening blocks readings, generator.EnumLayout name values
      (generator.enumDeclaration name description values)
      opening blocks readings := by
  have opened : Code.lines
      ("pub enum " ++ generator.policy.typeIdentifier name ++ " \x7b") =
        [("pub enum " ++ generator.policy.typeIdentifier name ++ " \x7b").toList] := by
    have unbroken := (@IdentifierPolicy.spelled_typeIdentifier generator.policy
      name named).unbroken
    exact Code.lines_of_unbroken (by simp [unbroken])
  have whole := generator.lines_enumDeclaration name description values
  rw [opened] at whole
  refine ⟨_, _, _, whole, List.getLast?_concat, ?_,
    generator.shown_of_mem_enumBlocks values, generator.mapM_read?_enumBlocks values,
    generator.readAll?_enumDeclaration name description values, ?_, ?_, ?_, ?_⟩
  · rw [List.forall_mem_append, List.forall_mem_map, List.forall_mem_singleton]
    refine ⟨fun line member => Code.not_blank_of_isPreamble ?_, ?_⟩
    · exact (remark_of_mem_enumRemarks line member).1
    · exact not_blank_of_mem (c := 'p') (by simp) (by decide)
  · rw [List.map_map]
    exact generator.map_said_enumCases (·.name) values
  · rw [List.map_map]
    exact generator.map_variant_enumCases values
  · rw [List.map_map]
    exact generator.map_said_enumCases (·.deprecation) values
  · rw [List.map_map]
    exact generator.map_said_enumCases (·.describedLines) values

end Generator

def disguisedValues : List EnumValue :=
  [⟨"new_hope", some " #[serde(rename = \"JEDI\")]  \n\n    Jedi,\r\n\x7d", true,
      some "\")]\n    Jedi,"⟩,
   ⟨"NEW_HOPE", some " \n ", true, none⟩]

def bareGenerator : Generator :=
  { schema := ⟨[], ⟨none, none, none⟩⟩
    config := .standard }

theorem Generator.enumDeclaration_readBack_disguised :
    isName "Episode" = true ∧
      ∃ opening blocks readings,
        bareGenerator.EnumLayout "Episode" disguisedValues
          (bareGenerator.enumDeclaration "Episode" none disguisedValues)
          opening blocks readings := by
  have named : isName "Episode" = true := by decide
  exact ⟨named, bareGenerator.enumDeclaration_readBack "Episode" none
    disguisedValues named⟩

example : disguisedValues.map (·.describedLines) =
    [some ["#[serde(rename = \"JEDI\")]", "", "    Jedi,", "\x7d"], none] := by
  decide

end TypedGraphQL
