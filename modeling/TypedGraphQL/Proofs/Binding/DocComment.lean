import Mathlib.Data.List.TakeWhile
import TypedGraphQL.Binding.Attributes
import TypedGraphQL.Proofs.Binding.Identifier
import TypedGraphQL.Proofs.Text.Lines
import TypedGraphQL.Proofs.Text.Quoted

namespace TypedGraphQL

namespace Text

/-- Some carriage return has more than blanks after it on its line. -/
def StrayReturn (text : List Char) : Prop :=
  ∃ before after, text = before ++ '\r' :: after ∧
    ∃ c ∈ after.takeWhile (· != '\n'), isBlank c = false

theorem not_strayReturn_nil : ¬ StrayReturn [] := by
  rintro ⟨before, after, split, -⟩
  simp at split

theorem strayReturn_cons_iff {c : Char} {rest : List Char} :
    StrayReturn (c :: rest) ↔
      c = '\r' ∧ (∃ d ∈ rest.takeWhile (· != '\n'), isBlank d = false) ∨
        StrayReturn rest := by
  constructor
  · rintro ⟨before, after, split, shown⟩
    cases before with
    | nil =>
        obtain ⟨rfl, rfl⟩ := List.cons.inj split
        exact .inl ⟨rfl, shown⟩
    | cons _ before =>
        obtain ⟨rfl, rfl⟩ := List.cons.inj split
        exact .inr ⟨before, after, rfl, shown⟩
  · rintro (⟨rfl, shown⟩ | ⟨before, after, rfl, shown⟩)
    · exact ⟨[], rest, rfl, shown⟩
    · exact ⟨c :: before, after, rfl, shown⟩

theorem takeWhile_line {line : List Char} (unbroken : '\n' ∉ line) :
    line.takeWhile (· != '\n') = line := by
  rw [List.takeWhile_eq_self_iff]
  exact fun c member => bne_iff_ne.mpr fun feed => unbroken (feed ▸ member)

theorem strayReturn_append_iff {line rest : List Char} (unbroken : '\n' ∉ line) :
    StrayReturn (line ++ '\n' :: rest) ↔ StrayReturn line ∨ StrayReturn rest := by
  induction line with
  | nil => simp [strayReturn_cons_iff, not_strayReturn_nil]
  | cons c line ih =>
      rw [List.mem_cons, not_or] at unbroken
      have upToFeed : (line ++ '\n' :: rest).takeWhile (· != '\n') =
          line.takeWhile (· != '\n') := by
        simp [List.takeWhile_append, takeWhile_line unbroken.2]
      rw [List.cons_append, strayReturn_cons_iff, strayReturn_cons_iff,
        ih unbroken.2, upToFeed, or_assoc]

theorem trimEnd_eq_nil_iff {text : List Char} :
    trimEnd text = [] ↔ ∀ c ∈ text, isBlank c = true := by
  rw [trimEnd, List.reverse_eq_nil_iff, List.dropWhile_eq_nil_iff]
  simp

theorem trimEnd_cons (c : Char) (rest : List Char) :
    trimEnd (c :: rest) =
      if trimEnd rest = [] then if isBlank c then [] else [c]
      else c :: trimEnd rest := by
  simp only [trimEnd, List.reverse_cons, List.dropWhile_append,
    List.reverse_eq_nil_iff, List.isEmpty_iff]
  split
  · rw [List.dropWhile_cons]
    split <;> simp [*]
  · simp

theorem mem_trimEnd_iff_strayReturn {line : List Char} (unbroken : '\n' ∉ line) :
    '\r' ∈ trimEnd line ↔ StrayReturn line := by
  induction line with
  | nil => simp [trimEnd, not_strayReturn_nil]
  | cons c rest ih =>
      rw [List.mem_cons, not_or] at unbroken
      rw [strayReturn_cons_iff, ← ih unbroken.2, takeWhile_line unbroken.2,
        trimEnd_cons]
      by_cases bare : trimEnd rest = []
      · have blank := trimEnd_eq_nil_iff.mp bare
        have none : ¬ ∃ d ∈ rest, isBlank d = false := by
          rintro ⟨d, member, shown⟩
          simp [blank d member] at shown
        have returnBlank : isBlank '\r' = true := by decide
        rw [bare, if_pos rfl]
        simp only [none, and_false, false_or]
        split
        · rfl
        next shown =>
          refine iff_of_false ?_ List.not_mem_nil
          rintro member
          obtain rfl := List.mem_singleton.mp member
          exact shown returnBlank
      · have shown : ∃ d ∈ rest, isBlank d = false := by
          simpa using mt trimEnd_eq_nil_iff.mpr bare
        rw [if_neg bare, List.mem_cons, and_iff_left shown]
        exact or_congr_left eq_comm

theorem trimEnd_endedLine (current : List Char) :
    trimEnd (endedLine current) = trimEnd current.reverse := by
  fun_cases endedLine current with
  | case1 before => simp [trimEnd, show isBlank '\r' = true by decide]
  | case2 => rfl

theorem exists_mem_linesAfter_iff {current text : List Char}
    (unbroken : '\n' ∉ current) :
    (∃ line ∈ linesAfter current text, '\r' ∈ trimEnd line) ↔
      StrayReturn (current.reverse ++ text) := by
  fun_induction linesAfter current text with
  | case1 current empty =>
      obtain rfl := List.isEmpty_iff.mp empty
      simp [not_strayReturn_nil]
  | case2 current begun =>
      have unbrokenLine : '\n' ∉ current.reverse := mt List.mem_reverse.mp unbroken
      simp [mem_trimEnd_iff_strayReturn unbrokenLine]
  | case3 current rest ih =>
      have unbrokenLine : '\n' ∉ current.reverse := mt List.mem_reverse.mp unbroken
      simp only [List.mem_cons, exists_eq_or_imp]
      rw [ih List.not_mem_nil, trimEnd_endedLine,
        mem_trimEnd_iff_strayReturn unbrokenLine,
        strayReturn_append_iff unbrokenLine]
      rfl
  | case4 current c rest other ih =>
      have extended : '\n' ∉ c :: current := by
        rw [List.mem_cons, not_or]
        exact ⟨Ne.symm other, unbroken⟩
      rw [ih extended, List.reverse_cons, List.append_assoc]
      rfl

theorem exists_mem_lines_iff {text : List Char} :
    (∃ line ∈ lines text, '\r' ∈ trimEnd line) ↔ StrayReturn text :=
  exists_mem_linesAfter_iff (by simp)

instance (text : List Char) : Decidable (StrayReturn text) :=
  decidable_of_iff _ exists_mem_lines_iff

end Text

namespace DocComment

open Syntax (isName isNameContinue)

/-- Documentation up to the end of its line; four slashes are an ordinary comment. -/
structure IsComment (margin line : String) : Prop where
  opened : (margin ++ "///").toList <+: line.toList
  documents : ¬ (margin ++ "////").toList <+: line.toList
  unbroken : '\n' ∉ line.toList

/-- Documentation must not hold a carriage return either. -/
structure IsLegalComment (margin line : String) : Prop
    extends IsComment margin line where
  returnFree : '\r' ∉ line.toList

def content? (margin line : String) : Option (List Char) :=
  ((margin ++ "///").toList.isPrefixOf? line.toList).bind fun text =>
    match text with
    | [] => some []
    | ' ' :: text => some text
    | _ => none

def shown (description : Option String) (name : String) : List Char :=
  let text := Text.trim (description.getD "").toList
  if text = [] then name.toList else text

theorem toList_textOr (description : Option String) (name : String) :
    (textOr description name).toList = shown description name := by
  rw [textOr, text?, shown]
  cases description with
  | none => rfl
  | some text =>
      by_cases blank : Text.trim text.toList = []
      · simp [blank]
      · simp [blank]

section Line

variable {margin : String}

theorem toList_line (text : List Char) :
    (line margin text).toList = (margin ++ "///").toList ++
      if Text.trimEnd text = [] then [] else ' ' :: Text.trimEnd text := by
  rw [line]
  cases Text.trimEnd text <;> simp

theorem content?_line (text : List Char) :
    content? margin (line margin text) = some (Text.trimEnd text) := by
  rw [content?, toList_line, Text.isPrefixOf?_append, Option.bind_some]
  cases Text.trimEnd text <;> rfl

variable (spaces : ∀ c ∈ margin.toList, c = ' ')

include spaces

theorem mem_line_iff {c : Char} (other : c ∉ [' ', '/']) (text : List Char) :
    c ∈ (line margin text).toList ↔ c ∈ Text.trimEnd text := by
  simp only [List.mem_cons, List.not_mem_nil, or_false, not_or] at other
  have outside : c ∉ margin.toList := fun member => other.1 (spaces c member)
  rw [toList_line]
  split <;> simp [*]

theorem isComment_line {text : List Char} (unbroken : '\n' ∉ text) :
    IsComment margin (line margin text) := by
  refine ⟨?_, ?_, fun feed => ?_⟩
  · rw [toList_line]
    exact List.prefix_append _ _
  · have slashes : (margin ++ "////").toList =
        (margin ++ "///").toList ++ ['/'] := by simp
    rw [toList_line, slashes, List.prefix_append_right_inj]
    split <;> simp
  · exact unbroken (Text.trimEnd_subset text
      ((mem_line_iff spaces (by decide) text).mp feed))

theorem isLegalComment_line_iff {text : List Char} (unbroken : '\n' ∉ text) :
    IsLegalComment margin (line margin text) ↔ '\r' ∉ Text.trimEnd text := by
  rw [← mem_line_iff spaces (by decide) text]
  exact ⟨fun legal => legal.returnFree,
    fun returnFree => ⟨isComment_line spaces unbroken, returnFree⟩⟩

end Line

theorem strayReturn_shown_iff {name : String} (named : isName name = true)
    (description : Option String) :
    Text.StrayReturn (shown description name) ↔
      Text.StrayReturn (Text.trim (description.getD "").toList) := by
  dsimp only [shown]
  split
  next blank =>
    have spelled := Spelled.of_isName named
    rw [blank]
    refine iff_of_false ?_ Text.not_strayReturn_nil
    rintro ⟨before, after, split, -⟩
    exact absurd (spelled '\r' (by simp [split])) (by decide)
  next => rfl

/--
Each line of what is shown becomes a comment, and is read back from it without the
blanks at its end.  All comments are legal exactly if no carriage return of the
description is stray.
-/
theorem isLegalComment_iff (description : Option String) {name margin : String}
    (named : isName name = true) (spaces : ∀ c ∈ margin.toList, c = ' ') :
    (lines (textOr description name) margin).mapM (content? margin) =
        some ((Text.lines (shown description name)).map Text.trimEnd) ∧
      (∀ line ∈ lines (textOr description name) margin, IsComment margin line) ∧
      ((∀ line ∈ lines (textOr description name) margin,
          IsLegalComment margin line) ↔
        ¬ Text.StrayReturn (Text.trim (description.getD "").toList)) := by
  rw [lines, toList_textOr, List.mapM_map, List.forall_mem_map, List.forall_mem_map]
  refine ⟨?_, fun line inText => ?_, ?_⟩
  · have each : content? margin ∘ line margin = fun text => some (Text.trimEnd text) :=
      funext content?_line
    rw [each]
    exact List.mapM_pure
  · exact isComment_line spaces (Text.unbroken_of_mem_lines inText)
  · rw [← strayReturn_shown_iff named, ← Text.exists_mem_lines_iff]
    simp only [not_exists, not_and]
    exact forall₂_congr fun line inText =>
      isLegalComment_line_iff spaces (Text.unbroken_of_mem_lines inText)

theorem isLegalComment_iff_blanks :
    isName "Hero" = true ∧ (∀ c ∈ TypedGraphQL.margin.toList, c = ' ') ∧
      ¬ Text.StrayReturn (Text.trim " Of the\r \r\n\n\tstory. ".toList) ∧
      (∀ line ∈ lines (textOr (some " Of the\r \r\n\n\tstory. ") "Hero")
          TypedGraphQL.margin, IsLegalComment TypedGraphQL.margin line) ∧
      (lines (textOr (some " Of the\r \r\n\n\tstory. ") "Hero")
          TypedGraphQL.margin).mapM (content? TypedGraphQL.margin) =
        some ["Of the".toList, [], "\tstory.".toList] := by
  have named : isName "Hero" = true := by decide
  have spaces : ∀ c ∈ TypedGraphQL.margin.toList, c = ' ' := by
    simp [TypedGraphQL.margin]
  have kept : ¬ Text.StrayReturn
      (Text.trim " Of the\r \r\n\n\tstory. ".toList) := by decide +kernel
  have trimmed : (Text.lines (shown (some " Of the\r \r\n\n\tstory. ") "Hero")).map
      Text.trimEnd = ["Of the".toList, [], "\tstory.".toList] := by decide +kernel
  obtain ⟨readBack, -, legal⟩ := isLegalComment_iff
    (some " Of the\r \r\n\n\tstory. ") named spaces
  rw [trimmed] at readBack
  exact ⟨named, spaces, kept, legal.mpr kept, readBack⟩

/-- A carriage return between two words stands in the comment. -/
theorem lone_return_stays :
    ¬ ∀ line ∈ lines (textOr (some "One\rTwo") "Hero") TypedGraphQL.margin,
      IsLegalComment TypedGraphQL.margin line := by
  intro legal
  have comment := legal "    /// One\rTwo" (by decide)
  exact comment.returnFree (by decide)

end DocComment

end TypedGraphQL
