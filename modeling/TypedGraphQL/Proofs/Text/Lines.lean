import TypedGraphQL.Text.Lines
import TypedGraphQL.Text.Printable

namespace TypedGraphQL.Text

theorem mem_hexDigits {n : Nat} {c : Char} (member : c ∈ hexDigits n) :
    ∃ digit < 16, c = Nat.digitChar digit := by
  rw [hexDigits] at member
  induction n using Nat.strongRecOn with
  | ind n ih =>
      by_cases small : n < 16
      · rw [Nat.toDigits_of_lt_base small] at member
        exact ⟨n, small, List.mem_singleton.mp member⟩
      · rw [Nat.toDigits_of_base_le (by decide) (by omega), List.mem_append,
          List.mem_singleton] at member
        rcases member with front | rfl
        · exact ih (n / 16) (by omega) front
        · exact ⟨n % 16, Nat.mod_lt _ (by decide), rfl⟩

theorem unbroken_quotedChar (c : Char) : '\n' ∉ quotedChar c := by
  have digits : '\n' ∉ hexDigits c.toNat := by
    intro member
    obtain ⟨digit, small, equal⟩ := mem_hexDigits member
    exact (by decide : ∀ digit < 16, '\n' ≠ Nat.digitChar digit) digit small equal
  fun_cases quotedChar c with
  | case3 feed => simp
  | case7 _ _ feed _ _ _ _ =>
      simpa [eq_comm] using feed
  | case8 => simp [digits]
  | _ => decide

theorem unbroken_quoted (text : String) : '\n' ∉ (quoted text).toList := by
  simp [quoted, unbroken_quotedChar]

theorem endedLine_subset (current : List Char) : endedLine current ⊆ current := by
  fun_cases endedLine current with
  | case1 before =>
      exact fun c member => List.mem_cons_of_mem _ (List.mem_reverse.mp member)
  | case2 => exact fun c member => List.mem_reverse.mp member

theorem endedLine_of_kept {current : List Char}
    (kept : current.reverse.getLast? ≠ some '\r') :
    endedLine current = current.reverse := by
  fun_cases endedLine current with
  | case1 before => simp at kept
  | case2 => rfl

theorem linesAfter_ne_nil {current text : List Char}
    (begun : current.reverse ++ text ≠ []) : linesAfter current text ≠ [] := by
  fun_induction linesAfter current text with
  | case1 current empty => simp_all
  | case2 | case3 => exact List.cons_ne_nil _ _
  | case4 current c rest other ih => exact ih (by simp)

theorem lines_ne_nil {text : List Char} (begun : text ≠ []) : lines text ≠ [] :=
  linesAfter_ne_nil begun

theorem unbroken_of_mem_linesAfter {current text line : List Char}
    (unbroken : '\n' ∉ current) (member : line ∈ linesAfter current text) :
    '\n' ∉ line := by
  fun_induction linesAfter current text with
  | case1 current empty => simp at member
  | case2 current begun =>
      obtain rfl := List.mem_singleton.mp member
      simpa using unbroken
  | case3 current rest ih =>
      rcases List.mem_cons.mp member with rfl | later
      · exact fun feed => unbroken (endedLine_subset current feed)
      · exact ih (by simp) later
  | case4 current c rest other ih =>
      refine ih ?_ member
      rw [List.mem_cons, not_or]
      exact ⟨Ne.symm other, unbroken⟩

theorem unbroken_of_mem_lines {text line : List Char}
    (member : line ∈ lines text) : '\n' ∉ line :=
  unbroken_of_mem_linesAfter (by simp) member

theorem trimEnd_subset (text : List Char) : trimEnd text ⊆ text := by
  intro c member
  rw [trimEnd, List.mem_reverse] at member
  exact List.mem_reverse.mp ((List.dropWhile_sublist _).mem member)

theorem getLast?_trimEnd_ne {c : Char} (blank : isBlank c = true)
    (text : List Char) : (trimEnd text).getLast? ≠ some c := by
  intro last
  rw [trimEnd, List.getLast?_reverse] at last
  have kept := List.head?_dropWhile_not isBlank text.reverse
  simp [last, blank] at kept

/-! Splitting -/

theorem linesAfter_eq_splitOn {current text : List Char}
    (kept : ∀ line ∈ (current.reverse ++ text).splitOn '\n',
      line.getLast? ≠ some '\r')
    (unbroken : '\n' ∉ current) (begun : current.reverse ++ text ≠ [])
    (ended : (current.reverse ++ text).getLast? ≠ some '\n') :
    linesAfter current text = (current.reverse ++ text).splitOn '\n' := by
  have single : current.reverse.splitOn '\n' = [current.reverse] :=
    List.splitOn_eq_singleton (by simpa using unbroken)
  induction text generalizing current with
  | nil =>
      rw [List.append_nil] at begun ⊢
      rw [single, linesAfter, if_neg (by simpa using begun)]
  | cons c rest ih =>
      rw [linesAfter]
      split
      next feed =>
        subst feed
        rw [List.splitOn_append_cons_self, single] at kept ⊢
        rw [List.singleton_append, List.forall_mem_cons] at kept
        have more : rest ≠ [] := by
          rintro rfl
          simp at ended
        have restEnded : rest.getLast? ≠ some '\n' := by
          rwa [List.getLast?_append, List.getLast?_cons_of_ne_nil more,
            Option.or_of_isSome (List.getLast?_isSome.mpr more)] at ended
        have later : linesAfter [] rest = rest.splitOn '\n' :=
          @ih [] kept.2 (by simp) more restEnded (by simp)
        rw [endedLine_of_kept kept.1, later]
        rfl
      next other =>
        have moved : (c :: current).reverse ++ rest =
            current.reverse ++ c :: rest := by simp
        have extended : '\n' ∉ c :: current := by
          rw [List.mem_cons, not_or]
          exact ⟨Ne.symm other, unbroken⟩
        rw [← moved] at kept begun ended ⊢
        exact ih kept extended begun ended
          (List.splitOn_eq_singleton fun feed =>
            extended (List.mem_reverse.mp feed))

/--
The lines of a text are what stands between its line feeds, if none of them ends
in a carriage return and the last is not empty.
-/
theorem lines_eq_splitOn {text : List Char}
    (kept : ∀ line ∈ text.splitOn '\n', line.getLast? ≠ some '\r')
    (begun : text ≠ []) (ended : text.getLast? ≠ some '\n') :
    lines text = text.splitOn '\n' :=
  @linesAfter_eq_splitOn [] text kept (by simp) begun ended

end TypedGraphQL.Text
