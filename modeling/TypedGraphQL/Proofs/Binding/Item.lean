import TypedGraphQL.Proofs.Binding.Identifier
import TypedGraphQL.Text.Lines

namespace TypedGraphQL.Code

open Syntax (isNameContinue)
open Text (joinLines joinParagraphs)

def lines (code : String) : List (List Char) :=
  code.toList.splitOn '\n'

def isPreamble (line : List Char) : Bool :=
  "//".toList.isPrefixOf line || "#[".toList.isPrefixOf line

def openings : List String :=
  ["pub struct ", "pub enum ", "pub type ", "pub trait "]

def declared? (line : List Char) : Option String :=
  (openings.find? (·.toList.isPrefixOf line)).map fun opening =>
    String.ofList ((line.drop opening.toList.length).takeWhile isNameContinue)

def item? (code : String) : Option String :=
  ((lines code).find? (!isPreamble ·)).bind declared?

def items (code : String) : List String :=
  (lines code).filterMap declared?

def Remark (line : String) : Prop :=
  isPreamble line.toList = true ∧ '\n' ∉ line.toList

/-- After comments and attributes, the code declares an item of this name. -/
def Declares (code opening name : String) : Prop :=
  ∃ (remarks : List String) (ending : String),
    (∀ line ∈ remarks, Remark line) ∧
      ending.toList.head? ∈ [some ';', some ' '] ∧
      code = joinLines (remarks ++ [opening ++ name ++ ending])

theorem head?_openings :
    ∀ opening ∈ openings, opening.toList.head? = some 'p' := by decide

theorem isPreamble_eq_false {line : List Char} (head : line.head? = some 'p') :
    isPreamble line = false := by
  obtain ⟨rest, rfl⟩ := List.head?_eq_some_iff.mp head
  rfl

theorem exists_intercalate_cons (separator text : String) (after : List String) :
    ∃ tail, separator.intercalate (text :: after) = text ++ tail := by
  cases after with
  | nil => exact ⟨"", String.append_empty.symm⟩
  | cons next after =>
      rw [String.intercalate_cons_of_ne_nil (List.cons_ne_nil next after),
        String.append_assoc]
      exact ⟨_, rfl⟩

theorem intercalate_append (separator text rest : String) (before : List String) :
    separator.intercalate (before ++ [text]) ++ rest =
      separator.intercalate (before ++ [text ++ rest]) := by
  induction before with
  | nil => rfl
  | cons first before ih =>
      rw [List.cons_append, List.cons_append,
        String.intercalate_cons_of_ne_nil (by simp),
        String.intercalate_cons_of_ne_nil (by simp), String.append_assoc, ih]

theorem lines_append (first second : String) :
    lines (first ++ "\n" ++ second) = lines first ++ lines second := by
  simp only [lines, String.toList_append]
  rw [List.append_assoc]
  exact List.splitOn_append_cons_self _ _

theorem append_paragraph (first second : String) :
    first ++ "\n\n" ++ second = first ++ "\n" ++ ("" ++ "\n" ++ second) := by
  rw [String.empty_append, String.append_assoc, String.append_assoc]
  rfl

theorem lines_of_unbroken {code : String} (unbroken : '\n' ∉ code.toList) :
    lines code = [code.toList] :=
  List.splitOn_eq_singleton unbroken

theorem lines_joinLines {texts : List String} (begun : texts ≠ []) :
    lines (joinLines texts) = texts.flatMap lines := by
  induction texts with
  | nil => contradiction
  | cons text texts ih =>
      by_cases more : texts = []
      · simp [more, joinLines]
      · rw [joinLines, String.intercalate_cons_of_ne_nil more, lines_append,
          ← joinLines, ih more, List.flatMap_cons]

theorem flatMap_lines {texts : List String}
    (each : ∀ text ∈ texts, '\n' ∉ text.toList) :
    texts.flatMap lines = texts.map String.toList := by
  induction texts with
  | nil => rfl
  | cons text texts ih =>
      rw [List.forall_mem_cons] at each
      rw [List.flatMap_cons, lines_of_unbroken each.1, ih each.2]
      rfl

theorem lines_joinLines_of_unbroken {texts : List String} (begun : texts ≠ [])
    (each : ∀ text ∈ texts, '\n' ∉ text.toList) :
    lines (joinLines texts) = texts.map String.toList := by
  rw [lines_joinLines begun, flatMap_lines each]

theorem lines_joinParagraphs {texts : List String} (begun : texts ≠ []) :
    lines (joinParagraphs texts) = [[]].intercalate (texts.map lines) := by
  induction texts with
  | nil => contradiction
  | cons text texts ih =>
      by_cases more : texts = []
      · simp [more, joinParagraphs]
      · rw [joinParagraphs, String.intercalate_cons_of_ne_nil more,
          append_paragraph, lines_append, lines_append, ← joinParagraphs, ih more]
        cases texts with
        | nil => contradiction
        | cons next texts => simp [List.intercalate_cons_cons, lines]

theorem declared?_eq_none {line : List Char} (other : line.head? ≠ some 'p') :
    declared? line = none := by
  have closed : openings.find? (·.toList.isPrefixOf line) = none := by
    rw [List.find?_eq_none]
    intro opening member starts
    obtain ⟨rest, rfl⟩ := List.isPrefixOf_iff_prefix.mp starts
    rw [List.head?_append, head?_openings opening member] at other
    contradiction
  rw [declared?, closed]
  rfl

theorem find?_openings {opening : String} (opens : opening ∈ openings)
    (rest : List Char) :
    openings.find? (·.toList.isPrefixOf (opening.toList ++ rest)) =
      some opening := by
  simp only [openings, List.mem_cons, List.not_mem_nil, or_false] at opens
  rcases opens with rfl | rfl | rfl | rfl <;> rfl

theorem declared?_eq {opening : String} {name rest : List Char} {c : Char}
    (opens : opening ∈ openings) (spelled : Spelled name)
    (stops : isNameContinue c = false) :
    declared? (opening.toList ++ name ++ c :: rest) =
      some (String.ofList name) := by
  rw [declared?, List.append_assoc, find?_openings opens, Option.map_some,
    List.drop_left, List.takeWhile_append_of_pos spelled]
  simp [stops]

theorem exists_ending {ending : List Char}
    (ends : ending.head? ∈ [some ';', some ' ']) :
    ∃ c rest, ending = c :: rest ∧ isNameContinue c = false ∧ c ≠ '\n' := by
  simp only [List.mem_cons, List.not_mem_nil, or_false] at ends
  rcases ends with found | found <;>
    obtain ⟨rest, rfl⟩ := List.head?_eq_some_iff.mp found
  · exact ⟨';', rest, rfl, by decide, by decide⟩
  · exact ⟨' ', rest, rfl, by decide, by decide⟩

theorem unbroken_item {opening name : String} (opens : opening ∈ openings)
    (spelled : Spelled name.toList) : '\n' ∉ (opening ++ name).toList := by
  rw [String.toList_append, List.mem_append, not_or]
  refine ⟨?_, spelled.unbroken⟩
  exact (by decide : ∀ opening ∈ openings, '\n' ∉ opening.toList) opening opens

/-! Code whose lines are kept -/

/--
Code that declares items of these names in this order, and no line of which ends
in a carriage return.
-/
structure Laid (names : List String) (code : String) : Prop where
  kept : ∀ line ∈ lines code, line.getLast? ≠ some '\r'
  items : items code = names

def Plain (line : String) : Prop :=
  '\n' ∉ line.toList ∧ line.toList.getLast? ≠ some '\r' ∧
    line.toList.head? ≠ some 'p'

instance (line : String) : Decidable (Plain line) :=
  inferInstanceAs (Decidable (_ ∧ _))

def Parts (separator : String) : Prop :=
  ∀ {names others : List String} {first second : String}, Laid names first →
    Laid others second → Laid (names ++ others) (first ++ separator ++ second)

namespace Laid

theorem line {text : String} (plain : Plain text) : Laid [] text := by
  obtain ⟨unbroken, kept, other⟩ := plain
  have single := lines_of_unbroken unbroken
  refine ⟨by simpa [single] using kept, ?_⟩
  simp [Code.items, single, declared?_eq_none other]

theorem item {opening name ending : String} (opens : opening ∈ openings)
    (spelled : Spelled name.toList)
    (ends : ending.toList.head? ∈ [some ';', some ' '])
    (unbroken : '\n' ∉ ending.toList)
    (kept : ending.toList.getLast? ≠ some '\r') :
    Laid [name] (opening ++ name ++ ending) := by
  have whole : '\n' ∉ (opening ++ name ++ ending).toList := by
    rw [String.toList_append, List.mem_append, not_or]
    exact ⟨unbroken_item opens spelled, unbroken⟩
  have single := lines_of_unbroken whole
  obtain ⟨c, rest, found, stops, -⟩ := exists_ending ends
  refine ⟨?_, ?_⟩
  · rw [single, List.forall_mem_singleton, String.toList_append,
      List.getLast?_append, Option.or_of_isSome]
    · exact kept
    · rw [found, List.getLast?_isSome]
      exact List.cons_ne_nil c rest
  · rw [Code.items, single, String.toList_append, String.toList_append, found,
      List.filterMap_cons, declared?_eq opens spelled stops, String.ofList_toList]
    rfl

theorem empty : Laid [] "" :=
  .line (by simp [Plain])

theorem parts_line : Parts "\n" := by
  intro names others first second firstLaid secondLaid
  refine ⟨?_, ?_⟩
  · rw [lines_append]
    exact List.forall_mem_append.mpr ⟨firstLaid.kept, secondLaid.kept⟩
  · rw [Code.items, lines_append, List.filterMap_append]
    exact firstLaid.items ▸ secondLaid.items ▸ rfl

theorem parts_paragraph : Parts "\n\n" := by
  intro names others first second firstLaid secondLaid
  rw [append_paragraph]
  exact parts_line firstLaid (parts_line empty secondLaid)

/-! Laid texts between separators -/

section Joined

variable {separator : String}

theorem intercalate_cons {names others : List String} {text : String}
    {rest : List String} (parts : Parts separator) (first : Laid names text)
    (later : Laid others (separator.intercalate rest)) :
    Laid (names ++ others) (separator.intercalate (text :: rest)) := by
  cases rest with
  | nil =>
      obtain rfl : [] = others := later.items
      rw [List.append_nil]
      exact first
  | cons next rest =>
      rw [String.intercalate_cons_of_ne_nil (List.cons_ne_nil next rest)]
      exact parts first later

theorem intercalate {texts : List String} (parts : Parts separator)
    (each : ∀ text ∈ texts, Laid [] text) :
    Laid [] (separator.intercalate texts) := by
  induction texts with
  | nil => exact empty
  | cons text texts ih =>
      rw [List.forall_mem_cons] at each
      exact intercalate_cons parts each.1 (ih each.2)

end Joined

section Lines

variable {names : List String}

theorem paragraphs {texts : List String} (each : ∀ text ∈ texts, Laid [] text) :
    Laid [] (joinParagraphs texts) :=
  intercalate parts_paragraph each

theorem exists_paragraphs {texts : List String}
    (each : ∀ text ∈ texts, ∃ names, Laid names text) :
    ∃ names, Laid names (joinParagraphs texts) := by
  induction texts with
  | nil => exact ⟨[], empty⟩
  | cons text texts ih =>
      rw [List.forall_mem_cons] at each
      obtain ⟨names, laid⟩ := each.1
      obtain ⟨others, later⟩ := ih each.2
      exact ⟨names ++ others, intercalate_cons parts_paragraph laid later⟩

theorem first {text : String} {rest : List String} (laid : Laid names text)
    (each : ∀ text ∈ rest, Laid [] text) :
    Laid names (joinParagraphs (text :: rest)) := by
  have joined := intercalate_cons parts_paragraph laid (paragraphs each)
  rwa [List.append_nil] at joined

theorem lines {lines : List String} (each : ∀ line ∈ lines, Laid [] line) :
    Laid [] (joinLines lines) :=
  intercalate parts_line each

theorem plain {lines : List String} (each : ∀ line ∈ lines, Plain line) :
    Laid [] (joinLines lines) :=
  Laid.lines fun text member => .line (each text member)

theorem cons {text : String} {rest : List String} (laid : Laid [] text)
    (later : Laid names (joinLines rest)) :
    Laid names (joinLines (text :: rest)) :=
  intercalate_cons parts_line laid later

theorem cons_item {text : String} {rest : List String} (laid : Laid names text)
    (each : ∀ line ∈ rest, Laid [] line) :
    Laid names (joinLines (text :: rest)) := by
  have joined := intercalate_cons parts_line laid (lines each)
  rwa [List.append_nil] at joined

theorem append {lines rest : List String} (each : ∀ line ∈ lines, Laid [] line)
    (later : Laid names (joinLines rest)) :
    Laid names (joinLines (lines ++ rest)) := by
  induction lines with
  | nil => exact later
  | cons line lines ih =>
      rw [List.forall_mem_cons] at each
      exact cons each.1 (ih each.2)

end Lines

end Laid

/-! The item that code starts with -/

theorem lines_unbroken_append {front : String} (unbroken : '\n' ∉ front.toList)
    (rest : String) :
    lines (front ++ rest) = (lines rest).modifyHead (front.toList ++ ·) := by
  simp only [lines, String.toList_append]
  generalize front.toList = characters at unbroken
  induction characters with
  | nil =>
      rw [List.nil_append]
      cases List.splitOn '\n' rest.toList <;> rfl
  | cons c characters ih =>
      rw [List.mem_cons, not_or] at unbroken
      have other : (c == '\n') = false :=
        beq_eq_false_iff_ne.mpr (Ne.symm unbroken.1)
      rw [List.cons_append, List.splitOn_cons_eq_if_modifyHead, other,
        ih unbroken.2]
      cases List.splitOn '\n' rest.toList <;> rfl

theorem item?_of_remark {line : String} (remark : Remark line) (rest : String) :
    item? (line ++ "\n" ++ rest) = item? rest := by
  rw [item?, lines_append, lines_of_unbroken remark.2]
  simp [item?, remark.1]

theorem exists_lines_of_head? {text : String} {c : Char}
    (head : text.toList.head? = some c) (other : c ≠ '\n') :
    ∃ first later, lines text = (c :: first) :: later := by
  obtain ⟨rest, whole⟩ := List.head?_eq_some_iff.mp head
  rw [lines, whole, List.splitOn_cons_eq_if_modifyHead,
    beq_eq_false_iff_ne.mpr other]
  cases split : List.splitOn '\n' rest with
  | nil => exact absurd split (List.splitOn_ne_nil _ _)
  | cons first later => exact ⟨first, later, rfl⟩

theorem item?_eq_none {code : String} (head : code.toList.head? = some 'i') :
    item? code = none := by
  obtain ⟨first, later, split⟩ := exists_lines_of_head? head (by decide)
  have own : isPreamble ('i' :: first) = false := rfl
  rw [item?, split, List.find?_cons_of_pos (by rw [own]; rfl), Option.bind_some]
  exact declared?_eq_none (by simp)

theorem item?_joinLines_eq_none {line next : String} {rest : List String}
    (remark : Remark line) (head : next.toList.head? = some 'i')
    (tail : String) : item? (joinLines (line :: next :: rest) ++ tail) = none := by
  obtain ⟨later, equal⟩ := exists_intercalate_cons "\n" next rest
  rw [joinLines,
    String.intercalate_cons_of_ne_nil (List.cons_ne_nil next rest), equal,
    String.append_assoc, item?_of_remark remark]
  apply item?_eq_none
  rw [String.append_assoc, String.toList_append, List.head?_append, head,
    Option.some_or]

theorem item?_eq_of_line {opening name ending : String}
    (opens : opening ∈ openings) (spelled : Spelled name.toList)
    (ends : ending.toList.head? ∈ [some ';', some ' ']) :
    item? (opening ++ name ++ ending) = some name := by
  obtain ⟨c, rest, found, stops, other⟩ := exists_ending ends
  have head : ending.toList.head? = some c := by rw [found, List.head?_cons]
  obtain ⟨first, later, split⟩ := exists_lines_of_head? head other
  have own : isPreamble (opening.toList ++ name.toList ++ c :: first) = false := by
    apply isPreamble_eq_false
    rw [List.append_assoc, List.head?_append, head?_openings opening opens]
    rfl
  rw [item?, lines_unbroken_append (unbroken_item opens spelled), split,
    List.modifyHead_cons, String.toList_append,
    List.find?_cons_of_pos (by rw [own]; rfl), Option.bind_some,
    declared?_eq opens spelled stops, String.ofList_toList]

namespace Declares

variable {opening name : String}

theorem append {code : String} (declares : Declares code opening name)
    (rest : String) : Declares (code ++ rest) opening name := by
  obtain ⟨remarks, ending, marked, ends, rfl⟩ := declares
  refine ⟨remarks, ending ++ rest, marked, ?_, ?_⟩
  · rw [String.toList_append, List.head?_append]
    cases found : ending.toList.head? <;> simp_all
  · rw [Text.joinLines, intercalate_append, String.append_assoc]
    rfl

theorem item {ending : String} (ends : ending.toList.head? ∈ [some ';', some ' '])
    (after : List String) :
    Declares (joinLines ((opening ++ name ++ ending) :: after)) opening name := by
  obtain ⟨tail, equal⟩ :=
    exists_intercalate_cons "\n" (opening ++ name ++ ending) after
  rw [joinLines, equal]
  exact append ⟨[], ending, by simp, ends, rfl⟩ tail

theorem remark {line next : String} {rest : List String}
    (remark : Remark line)
    (declares : Declares (joinLines (next :: rest)) opening name) :
    Declares (joinLines (line :: next :: rest)) opening name := by
  obtain ⟨remarks, ending, marked, ends, equal⟩ := declares
  refine ⟨line :: remarks, ending,
    List.forall_mem_cons.mpr ⟨remark, marked⟩, ends, ?_⟩
  rw [joinLines, String.intercalate_cons_of_ne_nil (List.cons_ne_nil next rest),
    ← joinLines, equal, List.cons_append, joinLines, joinLines,
    String.intercalate_cons_of_ne_nil (by simp)]

theorem remarks {lines : List String} {next : String} {rest : List String}
    (each : ∀ line ∈ lines, Remark line)
    (declares : Declares (joinLines (next :: rest)) opening name) :
    Declares (joinLines (lines ++ next :: rest)) opening name := by
  induction lines with
  | nil => exact declares
  | cons line lines ih =>
      rw [List.forall_mem_cons] at each
      cases lines with
      | nil => exact remark each.1 declares
      | cons following lines => exact remark each.1 (ih each.2)

theorem item?_eq {code : String} (declares : Declares code opening name)
    (opens : opening ∈ openings) (spelled : Spelled name.toList) :
    item? code = some name := by
  obtain ⟨remarks, ending, marked, ends, rfl⟩ := declares
  induction remarks with
  | nil => exact item?_eq_of_line opens spelled ends
  | cons line remarks ih =>
      rw [List.forall_mem_cons] at marked
      rw [joinLines, List.cons_append, String.intercalate_cons_of_ne_nil (by simp),
        item?_of_remark marked.1]
      exact ih marked.2

end Declares

/-- The last line is not empty. -/
def Ended (code : String) : Prop :=
  ∃ c, code.toList.getLast? = some c ∧ c ≠ '\n'

theorem Ended.intercalate {separator last : String} {texts : List String}
    (found : texts.getLast? = some last) (ended : Ended last) :
    Ended (separator.intercalate texts) := by
  induction texts with
  | nil => simp at found
  | cons text texts ih =>
      cases texts with
      | nil =>
          rw [List.getLast?_singleton, Option.some_inj] at found
          exact found ▸ ended
      | cons next texts =>
          rw [List.getLast?_cons_cons] at found
          obtain ⟨c, ends, other⟩ := ih found
          refine ⟨c, ?_, other⟩
          rw [String.intercalate_cons_of_ne_nil (by simp), String.toList_append,
            List.getLast?_append, ends, Option.some_or]

theorem Ended.paragraphs {texts : List String} (begun : texts ≠ [])
    (each : ∀ text ∈ texts, Ended text) : Ended (joinParagraphs texts) :=
  .intercalate (List.getLast?_eq_some_getLast begun)
    (each _ (List.getLast_mem begun))

theorem Ended.closed {lines : List String}
    (found : lines.getLast? = some "\x7d") : Ended (joinLines lines) :=
  .intercalate found ⟨'\x7d', by decide, by decide⟩

end TypedGraphQL.Code
