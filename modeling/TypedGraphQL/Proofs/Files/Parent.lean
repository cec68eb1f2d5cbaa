import Mathlib.Data.List.DropRight
import TypedGraphQL.Files.Access

namespace TypedGraphQL.FilePath

/-! Parts -/

theorem partsAfter_eq_splitOn {current text : List Char} (part : '/' ∉ current) :
    partsAfter current text =
      ((current.reverse ++ text).splitOn '/').map String.ofList := by
  -- The part so far is the front of the first piece; the induction is on the rest.
  have single : current.reverse.splitOn '/' = [current.reverse] :=
    List.splitOn_eq_singleton (by simpa using part)
  induction text generalizing current with
  | nil => rw [partsAfter, List.append_nil, single, List.map_singleton]
  | cons c rest ih =>
      rw [partsAfter]
      split
      next slash =>
        subst slash
        have later : partsAfter [] rest = (rest.splitOn '/').map String.ofList :=
          @ih [] (by simp) (by simp)
        rw [later, List.splitOn_append_cons_self, single, List.singleton_append,
          List.map_cons]
      next other =>
        have extended : '/' ∉ c :: current := by
          rw [List.mem_cons, not_or]
          exact ⟨Ne.symm other, part⟩
        have pieces := ih extended (List.splitOn_eq_singleton fun slash =>
          extended (List.mem_reverse.mp slash))
        rwa [List.reverse_cons, List.append_assoc] at pieces

theorem parts_eq_splitOn (path : String) :
    parts path = (path.toList.splitOn '/').map String.ofList :=
  partsAfter_eq_splitOn (by simp)

theorem parts_ne_nil (path : String) : parts path ≠ [] := by
  simp [parts_eq_splitOn, List.splitOn_ne_nil]

theorem parts_append (above below : String) :
    parts (above ++ "/" ++ below) = parts above ++ parts below := by
  have split : (above ++ "/" ++ below).toList = above.toList ++ '/' :: below.toList := by
    simp
  rw [parts_eq_splitOn, split, List.splitOn_append_cons_self, List.map_append,
    ← parts_eq_splitOn, ← parts_eq_splitOn]

theorem parts_of_not_mem {part : String} (whole : '/' ∉ part.toList) :
    parts part = [part] := by
  rw [parts_eq_splitOn, List.splitOn_eq_singleton whole, List.map_singleton,
    String.ofList_toList]

theorem not_mem_of_mem_partsAfter {current text : List Char} {part : String}
    (whole : '/' ∉ current) (member : part ∈ partsAfter current text) :
    '/' ∉ part.toList := by
  induction text generalizing current with
  | nil =>
      obtain rfl := List.mem_singleton.mp member
      simpa using whole
  | cons c rest ih =>
      rw [partsAfter] at member
      split at member
      next slash =>
        rcases List.mem_cons.mp member with rfl | later
        · simpa using whole
        · exact ih (by simp) later
      next other =>
        refine ih ?_ member
        rw [List.mem_cons, not_or]
        exact ⟨Ne.symm other, whole⟩

theorem not_mem_of_mem_parts {path part : String} (member : part ∈ parts path) :
    '/' ∉ part.toList :=
  not_mem_of_mem_partsAfter (by simp) member

theorem intercalate_parts (path : String) : "/".intercalate (parts path) = path := by
  have pieces : (parts path).map String.toList = path.toList.splitOn '/' := by
    simp [parts_eq_splitOn, Function.comp_def]
  rw [← String.toList_inj, String.toList_intercalate, pieces]
  exact List.intercalate_splitOn '/'

theorem parts_intercalate {names : List String} (named : names ≠ [])
    (whole : ∀ name ∈ names, '/' ∉ name.toList) :
    parts ("/".intercalate names) = names := by
  have pieces : ("/".intercalate names).toList.splitOn '/' = names.map String.toList := by
    rw [String.toList_intercalate]
    exact List.splitOn_intercalate '/' (List.forall_mem_map.mpr whole)
      (by simpa using named)
  rw [parts_eq_splitOn, pieces, List.map_map]
  simp [Function.comp_def]

/-! Parents -/

theorem withoutIdleEnd_prefix (names : List String) : withoutIdleEnd names <+: names :=
  List.rdropWhile_prefix isIdle names

theorem isIdle_of_getLast?_withoutIdleEnd {names : List String} {last : String}
    (ends : (withoutIdleEnd names).getLast? = some last) : isIdle last = false := by
  obtain ⟨before, kept⟩ := List.getLast?_eq_some_iff.mp ends
  have left : names.rdropWhile isIdle = before ++ [last] := kept
  have busy := List.rdropWhile_last_not isIdle names (by simp [left])
  simpa [left] using busy

/-- The path goes on after another, which ends in a name. -/
structure GoesOn (path above : String) : Prop where
  ends : ∃ before last, parts above = before ++ [last] ∧ isIdle last = false
  below : ∃ below, path = above ++ "/" ++ below

theorem goesOn_intercalate {path last : String} {before below : List String}
    (split : parts path = before ++ [last] ++ below) (more : below ≠ [])
    (busy : isIdle last = false) :
    GoesOn path ("/".intercalate (before ++ [last])) := by
  have named : before ++ [last] ≠ [] := by simp
  have whole (part : String) (member : part ∈ before ++ [last]) : '/' ∉ part.toList := by
    have inPath : part ∈ parts path := by
      rw [split]
      exact List.mem_append_left below member
    exact not_mem_of_mem_parts inPath
  refine ⟨⟨before, last, parts_intercalate named whole, busy⟩, "/".intercalate below, ?_⟩
  rw [← String.intercalate_append_of_ne_nil named more, ← split, intercalate_parts]

theorem exists_below {more : List String} (named : withoutIdleEnd more ≠ []) :
    ∃ below, below ≠ [] ∧
      more = withoutIdleEnd (withoutIdleEnd more).dropLast ++ below := by
  obtain ⟨idle, kept⟩ := withoutIdleEnd_prefix more
  obtain ⟨between, above⟩ := withoutIdleEnd_prefix (withoutIdleEnd more).dropLast
  refine ⟨between ++ ((withoutIdleEnd more).getLast named :: idle), by simp, ?_⟩
  rw [← List.append_assoc, above, List.append_cons, List.dropLast_concat_getLast, kept]

theorem goesOn_first {path first : String} {below : List String}
    (split : parts path = first :: below) (more : below ≠ []) :
    (∀ part ∈ parts (if first = "" then "/" else first), isIdle part = true) ∨
      GoesOn path (if first = "" then "/" else first) := by
  have whole : '/' ∉ first.toList :=
    not_mem_of_mem_parts (by rw [split]; exact List.mem_cons_self)
  by_cases root : first = ""
  · rw [if_pos root]
    exact .inl (by decide)
  · rw [if_neg root]
    cases busy : isIdle first with
    | true => exact .inl (by simpa [parts_of_not_mem whole] using busy)
    | false =>
        have goes := @goesOn_intercalate path first [] below split more busy
        rw [List.nil_append, String.intercalate_singleton] at goes
        exact .inr goes

/-- A path goes on from its parent, unless that is where paths start. -/
theorem goesOn_of_parent? {path parent : String} (above : parent? path = some parent) :
    (∀ part ∈ parts parent, isIdle part = true) ∨ GoesOn path parent := by
  rw [parent?] at above
  split at above
  next => contradiction
  next first more split =>
    split at above
    next =>
      split at above
      next => contradiction
      next =>
        obtain rfl := Option.some.inj above
        exact .inl (by decide)
    next names named =>
      obtain ⟨below, further, rest⟩ := exists_below named
      rw [rest] at split
      split at above
      next start =>
        rw [start, List.nil_append] at split
        obtain rfl := Option.some.inj above
        exact goesOn_first split further
      next kept =>
        obtain start | ⟨before, last, ends⟩ :=
          List.eq_nil_or_concat' (withoutIdleEnd (withoutIdleEnd more).dropLast)
        · exact absurd start kept
        · have busy : isIdle last = false :=
            isIdle_of_getLast?_withoutIdleEnd (by rw [ends, List.getLast?_concat])
          rw [ends] at split above
          obtain rfl := Option.some.inj above
          exact .inr (@goesOn_intercalate path last (first :: before) below split further
            busy)

namespace GoesOn

variable {path above : String}

theorem ne_empty (goes : GoesOn path above) : above ≠ "" := by
  rintro rfl
  obtain ⟨before, last, split, busy⟩ := goes.ends
  have empty : parts "" = [] ++ [""] := rfl
  obtain ⟨-, rfl⟩ := List.append_singleton_inj.mp (empty.symm.trans split)
  exact Bool.noConfusion busy

theorem head?_eq (goes : GoesOn path above) :
    path.toList.head? = above.toList.head? := by
  obtain ⟨below, rfl⟩ := goes.below
  have begun : above.toList ≠ [] := by simpa using goes.ne_empty
  rw [String.append_assoc, String.toList_append, List.head?_append_of_ne_nil _ begun]

end GoesOn

theorem check_eq_ok_iff {path : String} :
    check path = .ok () ↔
      '\x00' ∉ path.toList ∧ path.utf8ByteSize < lengthLimit ∧ path ≠ "" := by
  rw [check]
  split
  next zero => simp_all
  next free =>
    split
    next long => simp [Nat.not_lt.mpr long]
    next short => split <;> simp_all

theorem GoesOn.check_eq_ok {path above : String} (goes : GoesOn path above)
    (legal : check path = .ok ()) : check above = .ok () := by
  have begun := goes.ne_empty
  obtain ⟨below, rfl⟩ := goes.below
  obtain ⟨free, short, -⟩ := check_eq_ok_iff.mp legal
  simp only [String.toList_append, List.mem_append, not_or, String.utf8ByteSize_append]
    at free short
  exact check_eq_ok_iff.mpr ⟨free.1.1, by omega, begun⟩

end TypedGraphQL.FilePath
