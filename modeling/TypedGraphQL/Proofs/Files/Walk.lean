import TypedGraphQL.Proofs.Files.Parent
import TypedGraphQL.Proofs.Files.Place
import TypedGraphQL.Proofs.Introspection.Accepted

namespace TypedGraphQL.FileTree

open Introspection (bind_eq_ok_iff)

variable {tree : FileTree}

namespace Trail

/-- Every name of the trail leads to what the directory before it has under the name. -/
def Faithful (tree : FileTree) : Trail → Prop
  | [] => True
  | (name, found) :: trail =>
    (∃ here, tree.reached trail = some (.directory here) ∧
      found = here.lookup name) ∧ Faithful tree trail

/-- Where a part of a path leads on from a trail, with the directory that it ends in. -/
inductive Goes (here : Directory) (trail : Trail) (part : String) : Trail → Prop where
  | stay (idle : FilePath.isIdle part = true) : Goes here trail part trail
  | back (busy : FilePath.isIdle part = false) (up : part = "..") :
      Goes here trail part trail.tail
  | on (busy : FilePath.isIdle part = false) (down : part ≠ "..")
      (short : part.utf8ByteSize ≤ FilePath.nameLimit) :
      Goes here trail part ((part, here.lookup part) :: trail)

theorem place_cons (name : String) (found : Option FileEntry) (trail : Trail) :
    place ((name, found) :: trail) = trail.place ++ [name] := by
  simp [place]

end Trail

theorem enter_eq_ok_iff {trail : Trail} {here : Directory} :
    tree.enter trail = .ok here ↔ tree.reached trail = some (.directory here) := by
  rw [enter]
  split <;> simp_all

theorem walk_cons_eq_ok_iff {trail final : Trail} {part : String}
    {rest : List String} :
    tree.walk trail (part :: rest) = .ok final ↔
      ∃ here, tree.reached trail = some (.directory here) ∧
        ∃ next, trail.Goes here part next ∧ tree.walk next rest = .ok final := by
  simp only [walk, bind_eq_ok_iff, enter_eq_ok_iff]
  refine exists_congr fun here => and_congr_right fun _ => ⟨fun walked => ?_, ?_⟩
  · split at walked
    next idle => exact ⟨trail, .stay idle, walked⟩
    next busy =>
      rw [Bool.not_eq_true] at busy
      split at walked
      next up => exact ⟨trail.tail, .back busy up, walked⟩
      next down =>
        split at walked
        next long => contradiction
        next short => exact ⟨_, .on busy down (Nat.not_lt.mp short), walked⟩
  · rintro ⟨next, goes, walked⟩
    cases goes with
    | stay idle => rw [if_pos idle, walked]
    | back busy up => rw [if_neg (by simp [busy]), if_pos up, walked]
    | on busy down short =>
        rw [if_neg (by simp [busy]), if_neg down, if_neg (Nat.not_lt.mpr short), walked]

theorem walk_append_eq_ok_iff {trail final : Trail} {parts rest : List String} :
    tree.walk trail (parts ++ rest) = .ok final ↔
      ∃ between, tree.walk trail parts = .ok between ∧
        tree.walk between rest = .ok final := by
  induction parts generalizing trail with
  | nil =>
      rw [List.nil_append, walk]
      simp
  | cons part parts ih =>
      simp only [List.cons_append, walk_cons_eq_ok_iff, ih]
      constructor
      · rintro ⟨here, lies, next, goes, between, walked, further⟩
        exact ⟨between, ⟨here, lies, next, goes, walked⟩, further⟩
      · rintro ⟨between, ⟨here, lies, next, goes, walked⟩, further⟩
        exact ⟨here, lies, next, goes, between, walked, further⟩

theorem get?_place {trail : Trail} (faithful : trail.Faithful tree) :
    tree.get? trail.place = tree.reached trail := by
  induction trail with
  | nil => rw [get?, Trail.place, List.map_nil, List.reverse_nil, Directory.get?]; rfl
  | cons step trail ih =>
      obtain ⟨name, found⟩ := step
      obtain ⟨⟨here, lies, rfl⟩, rest⟩ := faithful
      rw [Trail.place_cons, get?_append, ih rest, lies]
      simp [FileEntry.at?, reached]

theorem isDirectoryAt_place_iff {trail : Trail} (faithful : trail.Faithful tree) :
    tree.IsDirectoryAt trail.place ↔
      ∃ here, tree.reached trail = some (.directory here) := by
  rw [IsDirectoryAt, get?_place faithful]

namespace Trail

theorem faithful_nil : Faithful tree [] :=
  trivial

theorem Faithful.tail {trail : Trail} (faithful : trail.Faithful tree) :
    Faithful tree trail.tail := by
  cases trail with
  | nil => exact faithful
  | cons step trail => exact faithful.2

theorem Goes.faithful {here : Directory} {trail next : Trail} {part : String}
    (goes : trail.Goes here part next) (faithful : trail.Faithful tree)
    (lies : tree.reached trail = some (.directory here)) : next.Faithful tree := by
  cases goes with
  | stay idle => exact faithful
  | back busy up => exact faithful.tail
  | on busy down short => exact ⟨⟨here, lies, rfl⟩, faithful⟩

theorem Goes.exists_of_names {here there : Directory} {trail next other : Trail}
    {part : String} (goes : trail.Goes here part next)
    (same : other.map (·.1) = trail.map (·.1)) :
    ∃ otherNext, other.Goes there part otherNext ∧
      otherNext.map (·.1) = next.map (·.1) := by
  cases goes with
  | stay idle => exact ⟨other, .stay idle, same⟩
  | back busy up =>
      exact ⟨other.tail, .back busy up, by rw [List.map_tail, List.map_tail, same]⟩
  | on busy down short =>
      exact ⟨_, .on busy down short, by rw [List.map_cons, List.map_cons, same]⟩

end Trail

theorem faithful_walk {trail final : Trail} {parts : List String}
    (faithful : trail.Faithful tree) (walked : tree.walk trail parts = .ok final) :
    final.Faithful tree := by
  induction parts generalizing trail with
  | nil =>
      obtain rfl := Except.ok.inj walked
      exact faithful
  | cons part rest ih =>
      obtain ⟨here, lies, next, goes, walked⟩ := walk_cons_eq_ok_iff.mp walked
      exact ih (goes.faithful faithful lies) walked

/-- More directories are no obstacle. -/
theorem exists_walk_of_directories {after : FileTree} {trail final other : Trail}
    {parts : List String}
    (directories : ∀ place, tree.IsDirectoryAt place → after.IsDirectoryAt place)
    (faithful : trail.Faithful tree) (otherFaithful : other.Faithful after)
    (same : other.map (·.1) = trail.map (·.1))
    (walked : tree.walk trail parts = .ok final) :
    ∃ otherFinal, after.walk other parts = .ok otherFinal ∧
      otherFinal.map (·.1) = final.map (·.1) := by
  induction parts generalizing trail other with
  | nil =>
      obtain rfl := Except.ok.inj walked
      exact ⟨other, rfl, same⟩
  | cons part rest ih =>
      obtain ⟨here, lies, next, goes, walked⟩ := walk_cons_eq_ok_iff.mp walked
      have before : tree.IsDirectoryAt other.place := by
        rw [Trail.place, same]
        exact (isDirectoryAt_place_iff faithful).mpr ⟨here, lies⟩
      obtain ⟨there, otherLies⟩ :=
        (isDirectoryAt_place_iff otherFaithful).mp (directories _ before)
      obtain ⟨otherNext, otherGoes, names⟩ := goes.exists_of_names same
      obtain ⟨otherFinal, otherWalked, ends⟩ :=
        ih (goes.faithful faithful lies) (otherGoes.faithful otherFaithful otherLies)
          names walked
      exact ⟨otherFinal, walk_cons_eq_ok_iff.mpr
        ⟨there, otherLies, otherNext, otherGoes, otherWalked⟩, ends⟩

theorem locate_eq_ok_iff {path : String} {place : List String} :
    tree.locate path = .ok place ↔
      FilePath.check path = .ok () ∧
        ∃ trail, tree.follow path (FilePath.parts path) = .ok trail ∧
          trail.place = place := by
  simp only [locate, bind_eq_ok_iff]
  constructor
  · rintro ⟨_, legal, trail, followed, located⟩
    exact ⟨legal, trail, followed, Except.ok.inj located⟩
  · rintro ⟨legal, trail, followed, rfl⟩
    exact ⟨(), legal, trail, followed, rfl⟩

theorem faithful_follow {path : String} {names : List String} {trail : Trail}
    (followed : tree.follow path names = .ok trail) : trail.Faithful tree := by
  rw [follow] at followed
  split at followed <;> exact faithful_walk Trail.faithful_nil followed

theorem isDirectoryAt_of_locate {path : String} {place : List String}
    (found : tree.locate path = .ok place) :
    place = [] ∨
      ∃ parent name, place = parent ++ [name] ∧ tree.IsDirectoryAt parent := by
  obtain ⟨-, trail, followed, rfl⟩ := locate_eq_ok_iff.mp found
  have faithful := faithful_follow followed
  cases trail with
  | nil => exact .inl rfl
  | cons step trail =>
      obtain ⟨name, entry⟩ := step
      obtain ⟨⟨here, lies, -⟩, rest⟩ := faithful
      exact .inr ⟨Trail.place trail, name, Trail.place_cons name entry trail,
        (isDirectoryAt_place_iff rest).mpr ⟨here, lies⟩⟩

theorem locate_of_directories {after : FileTree} {path : String} {place : List String}
    (same : after.workingDirectory = tree.workingDirectory)
    (directories : ∀ place, tree.IsDirectoryAt place → after.IsDirectoryAt place)
    (found : tree.locate path = .ok place) : after.locate path = .ok place := by
  obtain ⟨legal, trail, followed, rfl⟩ := locate_eq_ok_iff.mp found
  have again : ∃ other, after.follow path (FilePath.parts path) = .ok other ∧
      other.map (·.1) = trail.map (·.1) := by
    rw [follow] at followed
    rw [follow, same]
    split at followed
    next absolute =>
      rw [if_pos absolute]
      exact exists_walk_of_directories directories Trail.faithful_nil
        Trail.faithful_nil rfl followed
    next relative =>
      rw [if_neg relative]
      exact exists_walk_of_directories directories Trail.faithful_nil
        Trail.faithful_nil rfl followed
  obtain ⟨other, otherFollowed, names⟩ := again
  exact locate_eq_ok_iff.mpr ⟨legal, other, otherFollowed, by
    rw [Trail.place, Trail.place, names]⟩

theorem exists_follow_of_goesOn {path above : String} {trail : Trail}
    (goes : FilePath.GoesOn path above)
    (followed : tree.follow path (FilePath.parts path) = .ok trail) :
    ∃ between here, tree.follow above (FilePath.parts above) = .ok between ∧
      tree.reached between = some (.directory here) := by
  have further {start : List String} (walked : tree.walk [] (start ++
      FilePath.parts path) = .ok trail) :
      ∃ between here, tree.walk [] (start ++ FilePath.parts above) = .ok between ∧
        tree.reached between = some (.directory here) := by
    obtain ⟨below, rfl⟩ := goes.below
    rw [FilePath.parts_append, ← List.append_assoc] at walked
    obtain ⟨between, walked, rest⟩ := walk_append_eq_ok_iff.mp walked
    obtain ⟨next, names, more⟩ := List.exists_cons_of_ne_nil (FilePath.parts_ne_nil below)
    rw [more] at rest
    obtain ⟨here, lies, -⟩ := walk_cons_eq_ok_iff.mp rest
    exact ⟨between, here, walked, lies⟩
  rw [follow] at followed ⊢
  rw [goes.head?_eq] at followed
  split at followed
  next absolute => simpa [absolute] using @further [] followed
  next relative => simpa [relative] using further followed

theorem isDirectory_of_goesOn {path above : String} {place : List String}
    (goes : FilePath.GoesOn path above) (found : tree.locate path = .ok place) :
    tree.isDirectory above = true := by
  obtain ⟨legal, trail, followed, -⟩ := locate_eq_ok_iff.mp found
  obtain ⟨between, here, aboveFollowed, lies⟩ := exists_follow_of_goesOn goes followed
  have located : tree.locate above = .ok between.place :=
    locate_eq_ok_iff.mpr ⟨goes.check_eq_ok legal, between, aboveFollowed, rfl⟩
  rw [isDirectory, located]
  simp [get?_place (faithful_follow aboveFollowed), lies, FileEntry.isDirectory]

end TypedGraphQL.FileTree
