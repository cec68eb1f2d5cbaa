import TypedGraphQL.Proofs.Binding.Layout
import TypedGraphQL.Proofs.Binding.SourceModule

namespace TypedGraphQL

open Code (Plain Laid Ended)

namespace Code

theorem lines_indent {code : String}
    (kept : ∀ line ∈ lines code, line.getLast? ≠ some '\r') (ended : Ended code) :
    lines (Text.indent margin code) = (lines code).map SourceModule.setIn := by
  obtain ⟨c, last, other⟩ := ended
  have begun : code.toList ≠ [] := by
    intro empty
    simp [empty] at last
  have split : Text.lines code.toList = lines code :=
    Text.lines_eq_splitOn kept begun (by simpa [last] using other)
  have setIn (line : List Char) :
      (if line.isEmpty then "" else margin ++ String.ofList line).toList =
        SourceModule.setIn line := by
    rw [SourceModule.setIn, margin]
    split <;> simp
  rw [Text.indent, split, lines_joinLines_of_unbroken, List.map_map]
  · exact List.map_congr_left fun line _ => setIn line
  · simp [lines, List.splitOn_ne_nil]
  · refine List.forall_mem_map.mpr fun line member => ?_
    have unbroken : '\n' ∉ line := Text.unbroken_of_mem_lines (split ▸ member)
    rw [setIn, SourceModule.setIn]
    split
    · simp
    · simp [unbroken]

end Code

namespace Generator

variable {generator : Generator}

/-- The modules of a file in their order, with what they are called. -/
def moduleOrder : List (Section × String) :=
  [(.scalars, "scalars"), (.enums, "enums"), (.objects, "objects"),
   (.interfaces, "interfaces"), (.unions, "unions"), (.inputs, "inputs"),
   (.fields, "fields"), (.operations, "operations")]

def blocksOf (generator : Generator) (place : Section) : List Block :=
  generator.blocks.filter (·.place = place)

def imports (generator : Generator) (place : Section) : List String :=
  if place = .enums then
    ["use " ++ generator.runtime ++ "::serde::\x7bDeserialize, Serialize\x7d;"]
  else []

def sectionModule (generator : Generator) (place : Section) (name : String) :
    SourceModule :=
  { name := name
    code := "\n\n".intercalate
      (generator.imports place ++ (generator.blocksOf place).map (·.code)) }

/-- One module for each section with a block. -/
def modules (generator : Generator) : List SourceModule :=
  (moduleOrder.filter fun entry => generator.blocksOf entry.1 ≠ []).map fun entry =>
    generator.sectionModule entry.1 entry.2

theorem moduleOrder_eq :
    moduleOrder = Section.all.map fun place => (place, place.moduleName) :=
  rfl

theorem modules_eq :
    generator.modules =
      (Section.all.filter fun place => generator.blocksOf place ≠ []).map
        fun place => generator.sectionModule place place.moduleName := by
  rw [modules, moduleOrder_eq, List.filter_map, List.map_map]
  rfl

theorem count_blocksOf (block : Block) (place : Section) :
    (generator.blocksOf place).count block =
      if block.place = place then generator.blocks.count block else 0 := by
  rw [blocksOf]
  split
  next inPlace => exact List.count_filter (by simpa using inPlace)
  next elsewhere =>
    refine List.count_eq_zero_of_not_mem fun member => elsewhere ?_
    simpa using (List.mem_filter.mp member).2

theorem perm_blocksOf (generator : Generator) :
    (moduleOrder.flatMap fun entry => generator.blocksOf entry.1).Perm
      generator.blocks := by
  rw [List.perm_iff_count]
  intro block
  simp only [moduleOrder, List.flatMap_cons, List.flatMap_nil, List.append_nil,
    List.count_append, count_blocksOf]
  cases block.place <;> simp

theorem sectionText_eq (place : Section) :
    generator.sectionText generator.blocks place =
      if generator.blocksOf place ≠ [] then
        "\npub mod " ++ place.moduleName ++ " \x7b\n"
          ++ Text.indent margin (generator.sectionModule place place.moduleName).code
          ++ "\n\x7d\n"
      else "" := by
  have codes : sectionCodes generator.blocks place =
      (generator.blocksOf place).map (·.code) := rfl
  have imported : generator.sectionImports place = generator.imports place := by
    cases place <;> rfl
  unfold sectionText
  by_cases fills : generator.blocksOf place = []
  · rw [if_pos (by simp [codes, fills]), if_neg (by simp [fills])]
  · rw [if_neg (by simp [codes, fills]), if_pos fills, codes, imported]
    rfl

theorem laid_sectionModule {place : Section} (name : String)
    (config : generator.config.Unbroken)
    (blocks : ∀ block ∈ generator.blocks,
      (∃ names, Laid names block.code) ∧ Ended block.code)
    (fills : generator.blocksOf place ≠ []) :
    (∃ names, Laid names (generator.sectionModule place name).code) ∧
      Ended (generator.sectionModule place name).code := by
  have runtime := unbroken_runtime config
  have imports : ∀ text ∈ generator.imports place,
      (∃ names, Laid names text) ∧ Ended text := by
    rw [imports]
    split
    · refine List.forall_mem_singleton.mpr ⟨⟨[], .line ?_⟩, ';', ?_, by decide⟩
      · simp [Plain, runtime, List.getLast?_cons]
      · simp [List.getLast?_cons]
    · simp
  have each : ∀ text ∈ generator.imports place
      ++ (generator.blocksOf place).map (·.code),
      (∃ names, Laid names text) ∧ Ended text := by
    refine List.forall_mem_append.mpr ⟨imports, List.forall_mem_map.mpr ?_⟩
    exact fun block member => blocks block (List.mem_filter.mp member).1
  exact ⟨Laid.exists_paragraphs fun text member => (each text member).1,
    .paragraphs (by simp [fills]) fun text member => (each text member).2⟩

theorem lines_moduleText {name : String} (unbroken : '\n' ∉ name.toList)
    (body rest : String) :
    Code.lines ("\npub mod " ++ name ++ " \x7b\n" ++ body ++ "\n\x7d\n" ++ rest) =
      [[], SourceModule.opening name] ++ Code.lines body ++ [SourceModule.closing]
        ++ Code.lines rest := by
  have split : "\npub mod " ++ name ++ " \x7b\n" ++ body ++ "\n\x7d\n" ++ rest =
      "" ++ "\n" ++ (("pub mod " ++ name ++ " \x7b") ++ "\n"
        ++ (body ++ "\n" ++ ("\x7d" ++ "\n" ++ rest))) := by
    simp [← String.toList_inj]
  have opening : Code.lines ("pub mod " ++ name ++ " \x7b") =
      [SourceModule.opening name] :=
    Code.lines_of_unbroken (by simp [unbroken])
  have blank : Code.lines "" = [[]] := rfl
  have closing : Code.lines "\x7d" = [SourceModule.closing] :=
    Code.lines_of_unbroken (by simp)
  rw [split, Code.lines_append, Code.lines_append, Code.lines_append,
    Code.lines_append, blank, opening, closing]
  simp

theorem lines_sections
    (laid : ∀ place name, generator.blocksOf place ≠ [] →
      (∃ names, Laid names (generator.sectionModule place name).code) ∧
        Ended (generator.sectionModule place name).code)
    (places : List Section) :
    Code.lines
        (String.join (places.map (generator.sectionText generator.blocks))) =
      ((places.filter fun place => generator.blocksOf place ≠ []).map fun place =>
          generator.sectionModule place place.moduleName).flatMap
        SourceModule.lines ++ [[]] := by
  induction places with
  | nil => rfl
  | cons place places ih =>
      rw [List.map_cons, String.join_cons, sectionText_eq]
      by_cases fills : generator.blocksOf place = []
      · rw [if_neg (not_not_intro fills), String.empty_append, ih]
        simp [fills]
      · obtain ⟨⟨names, codeLaid⟩, ended⟩ := laid place place.moduleName fills
        have unbroken : '\n' ∉ place.moduleName.toList :=
          (spelled_moduleName place).unbroken
        rw [if_pos fills, lines_moduleText unbroken,
          Code.lines_indent codeLaid.kept ended, ih]
        simp [fills, SourceModule.lines, sectionModule]

theorem lines_file
    (laid : ∀ place name, generator.blocksOf place ≠ [] →
      (∃ names, Laid names (generator.sectionModule place name).code) ∧
        Ended (generator.sectionModule place name).code) :
    Code.lines generator.file = SourceModule.fileLines generator.modules := by
  have heading : Code.lines header = [SourceModule.heading] :=
    Code.lines_of_unbroken (by simp [header])
  rw [file, Code.lines_append, heading, lines_sections laid Section.all, ← modules_eq]
  rfl

/--
The file consists of the heading and a module for each section with a block, in
the order of `moduleOrder`.  The modules hold all blocks, each of them once, and can
be read back with the code of their blocks as it is.
-/
theorem file_readBack {types : List NamedType} {roots : RootTypes}
    (accepted : Schema.resolve types roots = .ok generator.schema)
    (named : generator.schema.Named) (config : generator.config.Unbroken) :
    Code.lines generator.file = SourceModule.fileLines generator.modules ∧
      SourceModule.read? generator.file = some generator.modules ∧
      (moduleOrder.flatMap fun entry => generator.blocksOf entry.1).Perm
        generator.blocks := by
  have blocks := laid_of_mem_blocks config accepted named
  have lines : Code.lines generator.file =
      SourceModule.fileLines generator.modules :=
    lines_file fun place name => laid_sectionModule name config fun block member =>
      ⟨⟨_, (blocks block member).1⟩, (blocks block member).2⟩
  refine ⟨lines, SourceModule.read?_of_lines ?_ lines, generator.perm_blocksOf⟩
  rw [modules_eq]
  exact List.forall_mem_map.mpr fun place _ => spelled_moduleName place

end Generator

def episodeGenerator : Generator :=
  { schema :=
      { types := [
          ⟨"Episode", some "Films.\r\n\r\nIn order.\r", .enum
            [⟨"JEDI", some "The third.\r\n", true, some "Old.\r\n"⟩]⟩,
          ⟨"Query", none, .object
            [⟨⟨"first", none, false, none⟩, .named "Episode", []⟩] []⟩]
        roots := ⟨some "Query", none, none⟩ }
    config := .standard }

theorem Generator.file_readBack_episode :
    Schema.resolve episodeGenerator.schema.types episodeGenerator.schema.roots =
        .ok episodeGenerator.schema ∧
      episodeGenerator.schema.Named ∧ episodeGenerator.config.Unbroken ∧
      Code.lines episodeGenerator.file =
        SourceModule.fileLines episodeGenerator.modules ∧
      SourceModule.read? episodeGenerator.file = some episodeGenerator.modules ∧
      (Generator.moduleOrder.flatMap fun entry =>
        episodeGenerator.blocksOf entry.1).Perm episodeGenerator.blocks := by
  have accepted : Schema.resolve episodeGenerator.schema.types
      episodeGenerator.schema.roots = .ok episodeGenerator.schema := rfl
  have named : episodeGenerator.schema.Named := by decide
  have config : episodeGenerator.config.Unbroken := ⟨by decide, by decide⟩
  exact ⟨accepted, named, config, Generator.file_readBack accepted named config⟩

end TypedGraphQL
