import TypedGraphQL.Proofs.Binding.CaseBlock

namespace TypedGraphQL

open Code (Remark isPreamble)
open Text (joinLines joinParagraphs)

structure Inverse (there back : List (String × String)) : Prop where
  undone : ∀ key ∈ there.map Prod.fst,
    (there.lookup key).bind (back.lookup ·) = some key
  redone : ∀ key ∈ back.map Prod.fst,
    (back.lookup key).bind (there.lookup ·) = some key

theorem lookup_of_mem {table : List (String × String)}
    (distinct : (table.map Prod.fst).Nodup) {entry : String × String}
    (member : entry ∈ table) : table.lookup entry.1 = some entry.2 := by
  induction table with
  | nil => simp at member
  | cons first rest ih =>
      rw [List.map_cons, List.nodup_cons] at distinct
      rcases List.mem_cons.mp member with rfl | later
      · exact List.lookup_cons_self
      · have other : entry.1 ≠ first.1 := by
          intro same
          exact distinct.1 (same ▸ List.mem_map_of_mem later)
        rw [List.lookup_cons, beq_eq_false_iff_ne.mpr other]
        exact ih distinct.2 later

theorem lookup_eq_none_iff_notMem {table : List (String × String)} {key : String} :
    table.lookup key = none ↔ key ∉ table.map Prod.fst := by
  rw [List.lookup_eq_none_iff, List.mem_map, not_exists]
  refine forall_congr' fun entry => ?_
  rw [bne_iff_ne, not_and, ne_comm]

theorem Inverse.swap {table : List (String × String)}
    (keys : (table.map Prod.fst).Nodup) (items : (table.map Prod.snd).Nodup) :
    Inverse table (table.map Prod.swap) := by
  have swapped : ((table.map Prod.swap).map Prod.fst).Nodup := by
    rwa [List.map_map]
  have there : ∀ entry ∈ table, table.lookup entry.1 = some entry.2 :=
    fun entry => lookup_of_mem keys
  have back : ∀ entry ∈ table,
      (table.map Prod.swap).lookup entry.2 = some entry.1 :=
    fun entry member => lookup_of_mem swapped (List.mem_map_of_mem member)
  refine ⟨List.forall_mem_map.mpr fun entry member => ?_, ?_⟩
  · rw [there entry member, Option.bind_some, back entry member]
  · rw [List.map_map]
    refine List.forall_mem_map.mpr fun entry member => ?_
    rw [Function.comp_apply, Prod.fst_swap, back entry member, Option.bind_some,
      there entry member]

namespace Code

def terminated (lines : List String) : String :=
  String.join (lines.map (· ++ "\n"))

theorem terminated_append (first second : List String) :
    terminated (first ++ second) = terminated first ++ terminated second := by
  rw [terminated, List.map_append, String.join_append]
  rfl

theorem infix_terminated {lines : List String} {line : String}
    (member : line ∈ lines) : line.toList <:+: (terminated lines).toList := by
  obtain ⟨before, after, rfl⟩ := List.append_of_mem member
  refine ⟨(terminated before).toList, "\n".toList ++ (terminated after).toList, ?_⟩
  rw [terminated_append]
  simp [terminated]

theorem joinLines_append (front : List String) {back : List String}
    (more : back ≠ []) :
    joinLines (front ++ back) = terminated front ++ joinLines back := by
  induction front with
  | nil => simp [terminated]
  | cons line front ih =>
      rw [List.cons_append, joinLines,
        String.intercalate_cons_of_ne_nil (by simp [more]), ← joinLines, ih,
        terminated, terminated, List.map_cons, String.join_cons,
        ← String.append_assoc]

theorem terminated_eq {lines : List String} (begun : lines ≠ []) :
    terminated lines = joinLines lines ++ "\n" := by
  have last := joinLines_append lines (List.cons_ne_nil "" [])
  rw [joinLines, String.intercalate_append_of_ne_nil begun (List.cons_ne_nil "" [])]
    at last
  simpa [joinLines] using last.symm

theorem terminated_concat_empty {lines : List String} (begun : lines ≠ []) :
    terminated (lines ++ [""]) = joinLines lines ++ "\n\n" := by
  rw [terminated_append, terminated_eq begun, String.append_assoc]
  rfl

def belowPreamble (text : String) : List Char :=
  ['\n'].intercalate ((lines text).dropWhile isPreamble)

theorem belowPreamble_terminated {remarks : List String}
    (each : ∀ line ∈ remarks, Remark line) {text : String}
    (head : text.toList.head? = some 'p') :
    belowPreamble (terminated remarks ++ text) = text.toList := by
  induction remarks with
  | nil =>
      obtain ⟨first, later, split⟩ := exists_lines_of_head? head (by decide)
      have whole : (lines text).dropWhile isPreamble = lines text := by
        rw [split]
        rfl
      rw [terminated, List.map_nil, String.join_nil, String.empty_append,
        belowPreamble, whole]
      exact List.intercalate_splitOn '\n'
  | cons line remarks ih =>
      rw [List.forall_mem_cons] at each
      rw [terminated, List.map_cons, String.join_cons, ← terminated,
        String.append_assoc, belowPreamble, lines_append,
        lines_of_unbroken each.1.2,
        List.singleton_append, List.dropWhile_cons_of_pos each.1.1]
      exact ih each.2

end Code

/--
An arm for each of the variants in their order, with its literal between texts
that depend on the variant; and the text after the arms.
-/
def arms? (front back : String → String) :
    List String → List Char → Option (List (String × String) × List Char)
  | [], text => some ([], text)
  | variant :: variants, text =>
    (Text.literalBetween? (front variant) (back variant) text).bind
      fun (name, text) =>
        (arms? front back variants text).map fun (arms, text) =>
          ((variant, name) :: arms, text)

def armTexts (front back : String → String) (table : List (String × String)) :
    String :=
  String.join (table.map fun (variant, name) =>
    front variant ++ Text.quoted name ++ back variant)

theorem arms?_armTexts (front back : String → String)
    (table : List (String × String)) (rest : List Char) :
    arms? front back (table.map Prod.fst)
        ((armTexts front back table).toList ++ rest) = some (table, rest) := by
  induction table with
  | nil => simp [arms?, armTexts]
  | cons entry table ih =>
      rw [armTexts, List.map_cons, List.map_cons, String.join_cons, ← armTexts,
        String.toList_append, List.append_assoc, arms?, Text.literalBetween?_quoted]
      simp [ih]

theorem terminated_arms {α : Type} (front back : String → String)
    (entry : α → String × String) (arm : α → String)
    (each : ∀ case, arm case ++ "\n" =
      front (entry case).1 ++ Text.quoted (entry case).2 ++ back (entry case).1)
    (cases : List α) :
    Code.terminated (cases.map arm) = armTexts front back (cases.map entry) := by
  rw [Code.terminated, armTexts, List.map_map, List.map_map]
  exact congrArg String.join (List.map_congr_left fun case _ => each case)

def nameFront (typeName variant : String) : String :=
  "            " ++ typeName ++ "::" ++ variant ++ " => "

def nameBack (_ : String) : String := ",\n"

def variantFront (_ : String) : String := "            "

def variantBack (typeName variant : String) : String :=
  " => Some(" ++ typeName ++ "::" ++ variant ++ "),\n"

/-! Enums -/

def allText (enumName : String) (variants : List String) : String :=
  "    pub const ALL: &'static [" ++ enumName ++ "] = &["
    ++ ", ".intercalate (variants.map fun variant => enumName ++ "::" ++ variant)
    ++ "];"

def enumOpening (enumName : String) (variants : List String) : String :=
  Code.terminated
    ["#[allow(deprecated)]",
     "impl " ++ enumName ++ " \x7b",
     allText enumName variants,
     "",
     "    /// The value as it appears in the schema.",
     "    pub fn as_str(&self) -> &'static str \x7b",
     "        match *self \x7b"]

def enumClosing : String :=
  joinLines ["        \x7d", "    \x7d", "\x7d"]

def enumArms? (enumName : String) (variants : List String) (text : String) :
    Option (List (String × String)) :=
  ((enumOpening enumName variants).toList.isPrefixOf? text.toList).bind fun text =>
    (arms? (nameFront enumName) nameBack variants text).bind fun (arms, text) =>
      (enumClosing.toList.isPrefixOf? text).map fun _ => arms

def enumText (enumName : String) (table : List (String × String)) : String :=
  enumOpening enumName (table.map Prod.fst)
    ++ armTexts (nameFront enumName) nameBack table ++ enumClosing

theorem enumArms?_enumText (enumName : String) (table : List (String × String))
    (rest : String) :
    enumArms? enumName (table.map Prod.fst) (enumText enumName table ++ rest) =
      some table := by
  have split : (enumText enumName table ++ rest).toList =
      (enumOpening enumName (table.map Prod.fst)).toList
        ++ ((armTexts (nameFront enumName) nameBack table).toList
          ++ (enumClosing.toList ++ rest.toList)) := by
    simp only [enumText, String.toList_append, List.append_assoc]
  rw [enumArms?, split, Text.isPrefixOf?_append, Option.bind_some, arms?_armTexts]
  simp

theorem infix_enumText (enumName : String) (table : List (String × String))
    (rest : String) :
    (allText enumName (table.map Prod.fst)).toList <:+:
      (enumText enumName table ++ rest).toList := by
  have opening : (allText enumName (table.map Prod.fst)).toList <:+:
      (enumOpening enumName (table.map Prod.fst)).toList :=
    Code.infix_terminated (by simp)
  simp only [enumText, String.toList_append, List.append_assoc]
  exact opening.trans (List.prefix_append _ _).isInfix

def EnumCase.entry (case : EnumCase) : String × String :=
  (case.variant, case.value.name)

theorem terminated_enumNameArms (enumName : String) :
    ∀ cases : List EnumCase,
      Code.terminated (cases.map (EnumCase.nameArm enumName)) =
        armTexts (nameFront enumName) nameBack (cases.map EnumCase.entry) := by
  refine terminated_arms _ _ _ (EnumCase.nameArm enumName) fun case => ?_
  delta EnumCase.nameArm nameFront nameBack
  rw [String.append_assoc]
  rfl

namespace Generator

variable (generator : Generator) (name : String) (description : Option String)

def enumTable (values : List EnumValue) : List (String × String) :=
  (generator.enumCases values).map EnumCase.entry

theorem enumNames_eq (values : List EnumValue) :
    generator.enumNames name (generator.enumCases values) =
      enumText (generator.policy.typeIdentifier name)
        (generator.enumTable values) := by
  have variants : (generator.enumTable values).map Prod.fst =
      (generator.enumCases values).map (·.variant) := by
    rw [enumTable, List.map_map]
    rfl
  rw [enumNames, Code.joinLines_append _ (by simp), Code.terminated_append,
    terminated_enumNameArms, enumText, variants]
  delta enumOpening allText
  rw [List.map_map]
  rfl

theorem exists_enumImplementation (values : List EnumValue) :
    ∃ rest, generator.enumImplementation name values =
      enumText (generator.policy.typeIdentifier name)
        (generator.enumTable values) ++ rest := by
  rw [← enumNames_eq]
  exact Code.exists_intercalate_cons "\n\n" _ _

end Generator

/-! Unions -/

def unionDeclared (unionName : String) (variants : List String) : String :=
  Code.terminated
    ["pub enum " ++ unionName ++ " \x7b",
     joinLines (variants.map fun variant => margin ++ variant ++ ","),
     "\x7d",
     ""]

def unionOpening (unionName : String) : String :=
  Code.terminated
    ["impl " ++ unionName ++ " \x7b",
     "    /// `__typename` of the member.",
     "    pub fn typename(&self) -> &'static str \x7b",
     "        match *self \x7b"]

def unionMiddle : String :=
  Code.terminated
    ["        \x7d",
     "    \x7d",
     "",
     "    pub fn from_typename(typename: &str) -> Option<Self> \x7b",
     "        match typename \x7b"]

def unionClosing : String :=
  joinLines ["            _ => None,", "        \x7d", "    \x7d", "\x7d"]

def unionArms? (unionName : String) (variants : List String) (text : String) :
    Option (List (String × String) × List (String × String)) :=
  ((unionDeclared unionName variants ++ unionOpening unionName).toList.isPrefixOf?
      (Code.belowPreamble text)).bind fun text =>
    (arms? (nameFront unionName) nameBack variants text).bind fun (there, text) =>
      (unionMiddle.toList.isPrefixOf? text).bind fun text =>
        (arms? variantFront (variantBack unionName) variants text).bind
          fun (back, text) =>
            (unionClosing.toList.isPrefixOf? text).map fun _ =>
              (there, back.map Prod.swap)

def unionText (unionName : String) (table : List (String × String)) : String :=
  unionDeclared unionName (table.map Prod.fst) ++ unionOpening unionName
    ++ armTexts (nameFront unionName) nameBack table ++ unionMiddle
    ++ armTexts variantFront (variantBack unionName) table ++ unionClosing

theorem unionArms?_unionText (unionName : String) (table : List (String × String))
    {remarks : List String} (each : ∀ line ∈ remarks, Remark line) (rest : String) :
    unionArms? unionName (table.map Prod.fst)
        (Code.terminated remarks ++ (unionText unionName table ++ rest)) =
      some (table, table.map Prod.swap) := by
  have head : (unionText unionName table ++ rest).toList.head? = some 'p' := by
    delta unionText unionDeclared
    simp [Code.terminated]
  have split : (unionText unionName table ++ rest).toList =
      (unionDeclared unionName (table.map Prod.fst) ++ unionOpening unionName).toList
        ++ ((armTexts (nameFront unionName) nameBack table).toList
          ++ (unionMiddle.toList
            ++ ((armTexts variantFront (variantBack unionName) table).toList
              ++ (unionClosing.toList ++ rest.toList)))) := by
    simp only [unionText, String.toList_append, List.append_assoc]
  rw [unionArms?, Code.belowPreamble_terminated each head, split,
    Text.isPrefixOf?_append, Option.bind_some, arms?_armTexts, Option.bind_some]
  dsimp only
  rw [Text.isPrefixOf?_append, Option.bind_some, arms?_armTexts, Option.bind_some]
  dsimp only
  rw [Text.isPrefixOf?_append, Option.map_some]

def UnionCase.entry (case : UnionCase) : String × String :=
  (case.variant, case.member)

theorem terminated_unionNameArms (unionName : String) :
    ∀ cases : List UnionCase,
      Code.terminated (cases.map (UnionCase.nameArm unionName)) =
        armTexts (nameFront unionName) nameBack (cases.map UnionCase.entry) := by
  refine terminated_arms _ _ _ (UnionCase.nameArm unionName) fun case => ?_
  delta UnionCase.nameArm nameFront nameBack
  rw [String.append_assoc]
  rfl

theorem terminated_unionVariantArms (unionName : String) :
    ∀ cases : List UnionCase,
      Code.terminated (cases.map (UnionCase.variantArm unionName)) =
        armTexts variantFront (variantBack unionName)
          (cases.map UnionCase.entry) := by
  refine terminated_arms _ _ _ (UnionCase.variantArm unionName) fun case => ?_
  delta UnionCase.variantArm variantFront variantBack UnionCase.entry
  simp [String.append_assoc]

namespace Generator

variable (generator : Generator) (name : String) (description : Option String)

def unionTable (members : List String) : List (String × String) :=
  (generator.unionCases members).map UnionCase.entry

theorem unionNames_eq (members : List String) :
    generator.unionNames name (generator.unionCases members) =
      unionOpening (generator.policy.typeIdentifier name)
        ++ armTexts (nameFront (generator.policy.typeIdentifier name)) nameBack
          (generator.unionTable members)
        ++ unionMiddle
        ++ armTexts variantFront (variantBack (generator.policy.typeIdentifier name))
          (generator.unionTable members)
        ++ unionClosing := by
  rw [unionNames, Code.joinLines_append _ (by simp), Code.terminated_append,
    Code.terminated_append, Code.terminated_append, terminated_unionNameArms,
    terminated_unionVariantArms]
  rfl

theorem unionDeclaration_paragraph (members : List String) :
    generator.unionDeclaration name description (generator.unionCases members)
        ++ "\n\n" =
      Code.terminated (unionRemarks name description)
        ++ unionDeclared (generator.policy.typeIdentifier name)
          ((generator.unionTable members).map Prod.fst) := by
  have declarations : ((generator.unionTable members).map Prod.fst).map
      (fun variant => margin ++ variant ++ ",") =
        (generator.unionCases members).map UnionCase.declaration := by
    rw [unionTable, List.map_map, List.map_map]
    rfl
  rw [unionDeclaration_eq, Code.joinLines_append _ (by simp), String.append_assoc,
    ← Code.terminated_concat_empty (by simp), ← declarations]
  rfl

theorem exists_unionMarker (members : List String) :
    ∃ rest, generator.unionMarker name description members =
      Code.terminated (unionRemarks name description)
        ++ (unionText (generator.policy.typeIdentifier name)
          (generator.unionTable members) ++ rest) := by
  obtain ⟨rest, equal⟩ := Code.exists_intercalate_cons "\n\n"
    (generator.unionNames name (generator.unionCases members))
    (generator.scopeImplementation name :: generator.polymorphism name members)
  refine ⟨rest, ?_⟩
  calc
    generator.unionMarker name description members
      = generator.unionDeclaration name description (generator.unionCases members)
          ++ "\n\n"
          ++ "\n\n".intercalate
            (generator.unionNames name (generator.unionCases members)
              :: generator.scopeImplementation name
              :: generator.polymorphism name members) :=
        String.intercalate_cons_of_ne_nil (List.cons_ne_nil _ _)
    _ = _ := by
      rw [equal, unionDeclaration_paragraph, unionNames_eq, unionText]
      simp only [String.append_assoc]

theorem enumTable_columns (values : List EnumValue) :
    (generator.enumTable values).map Prod.fst =
        IdentifierPolicy.unique
          (values.map (generator.policy.variantIdentifier ·.name)) ∧
      (generator.enumTable values).map Prod.snd = values.map (·.name) := by
  rw [enumTable, List.map_map, List.map_map]
  exact ⟨generator.map_variant_enumCases values,
    generator.map_said_enumCases (·.name) values⟩

theorem unionTable_columns (members : List String) :
    (generator.unionTable members).map Prod.fst =
        IdentifierPolicy.unique (members.map generator.policy.typeIdentifier) ∧
      (generator.unionTable members).map Prod.snd = members := by
  have zipped : generator.unionTable members =
      (members.zip (IdentifierPolicy.unique
        (members.map generator.policy.typeIdentifier))).map Prod.swap := by
    rw [unionTable, unionCases, ← List.map_uncurry_zip_eq_zipWith, List.map_map]
    rfl
  rw [zipped, List.map_map, List.map_map]
  exact ⟨List.map_snd_zip (by simp), List.map_fst_zip (by simp)⟩

/--
The names of an enum: `readings` is what its declaration says of the variants,
and `arms` what its implementation answers for each of them.
-/
structure EnumNames (values : List EnumValue) (readings : List CaseBlock)
    (arms : List (String × String)) : Prop where
  declared : CaseBlock.readAll? (generator.policy.typeIdentifier name)
    (generator.enumDeclaration name description values) = some readings
  distinct : (readings.map (·.variant)).Nodup
  all : (allText (generator.policy.typeIdentifier name)
      (readings.map (·.variant))).toList <:+:
    (generator.enumImplementation name values).toList
  implemented : enumArms? (generator.policy.typeIdentifier name)
    (readings.map (·.variant)) (generator.enumImplementation name values) =
      some arms
  renames : readings.map (·.name) = values.map (·.name)
  answers : arms = readings.map fun block => (block.variant, block.name)
  inverse : Inverse arms (readings.map fun block => (block.name, block.variant))

/--
The names of a union: `there` is what its code answers for each variant, and
`back` the variant that it answers for a name.
-/
structure UnionNames (members : List String) (there back : List (String × String)) :
    Prop where
  variants : there.map Prod.fst =
    IdentifierPolicy.unique (members.map generator.policy.typeIdentifier)
  distinct : (there.map Prod.fst).Nodup
  names : there.map Prod.snd = members
  read : unionArms? (generator.policy.typeIdentifier name) (there.map Prod.fst)
    (generator.unionMarker name description members) = some (there, back)
  inverse : Inverse there back
  closed : ∀ text, back.lookup text = none ↔ text ∉ members

theorem exists_enumNames {values : List EnumValue}
    (distinct : (values.map (·.name)).Nodup) :
    ∃ readings arms, generator.EnumNames name description values readings arms := by
  obtain ⟨variants, names⟩ := generator.enumTable_columns values
  have apart : ((generator.enumTable values).map Prod.fst).Nodup :=
    variants ▸ IdentifierPolicy.nodup_unique _
  have blocks : ((generator.enumCases values).map EnumCase.block).map (·.variant) =
      (generator.enumTable values).map Prod.fst := by
    rw [enumTable, List.map_map, List.map_map]
    rfl
  obtain ⟨rest, implementation⟩ := generator.exists_enumImplementation name values
  refine ⟨(generator.enumCases values).map EnumCase.block,
    generator.enumTable values, ?_⟩
  constructor
  case declared => exact generator.readAll?_enumDeclaration name description values
  case distinct => rwa [blocks]
  case all =>
    rw [blocks, implementation]
    exact infix_enumText _ _ rest
  case implemented => rw [blocks, implementation, enumArms?_enumText]
  case renames =>
    rw [List.map_map]
    exact generator.map_said_enumCases (·.name) values
  case answers =>
    rw [enumTable, List.map_map]
    rfl
  case inverse =>
    have swapped : ((generator.enumCases values).map EnumCase.block).map
        (fun block => (block.name, block.variant)) =
          (generator.enumTable values).map Prod.swap := by
      rw [enumTable, List.map_map, List.map_map]
      rfl
    rw [swapped]
    exact .swap apart (by rwa [names])

theorem exists_unionNames {members : List String} (distinct : members.Nodup) :
    ∃ there back, generator.UnionNames name description members there back := by
  obtain ⟨variants, names⟩ := generator.unionTable_columns members
  have apart : ((generator.unionTable members).map Prod.fst).Nodup :=
    variants ▸ IdentifierPolicy.nodup_unique _
  obtain ⟨rest, whole⟩ := generator.exists_unionMarker name description members
  refine ⟨generator.unionTable members,
    (generator.unionTable members).map Prod.swap, ?_⟩
  constructor
  case variants => exact variants
  case distinct => exact apart
  case names => exact names
  case read =>
    rw [whole]
    exact unionArms?_unionText _ _ remark_of_mem_unionRemarks rest
  case inverse => exact .swap apart (by rwa [names])
  case closed =>
    intro text
    have keys : ((generator.unionTable members).map Prod.swap).map Prod.fst =
        members := by
      rw [List.map_map]
      exact names
    rw [lookup_eq_none_iff_notMem, keys]

/--
Where the names of the values of an enum or of the members of a union are
distinct, names and variants determine each other, and no other text than the
name of a member has a variant of the union.
-/
theorem names_determine_variants :
    (∀ values : List EnumValue, (values.map (·.name)).Nodup →
      ∃ readings arms,
        generator.EnumNames name description values readings arms) ∧
    ∀ members : List String, members.Nodup →
      ∃ there back, generator.UnionNames name description members there back :=
  ⟨fun _ => generator.exists_enumNames name description,
    fun _ => generator.exists_unionNames name description⟩

theorem names_determine_variants_colliding :
    (disguisedValues.map (·.name)).Nodup ∧ ["Box", "Box_"].Nodup ∧
      (∃ readings arms,
        bareGenerator.EnumNames "Episode" none disguisedValues readings arms) ∧
      ∃ there back,
        bareGenerator.UnionNames "Self" none ["Box", "Box_"] there back := by
  have values : (disguisedValues.map (·.name)).Nodup := by decide
  have members : ["Box", "Box_"].Nodup := by decide
  exact ⟨values, members,
    (bareGenerator.names_determine_variants "Episode" none).1 _ values,
    (bareGenerator.names_determine_variants "Self" none).2 _ members⟩

end Generator

end TypedGraphQL
