import TypedGraphQL.Proofs.Files.Walk

namespace TypedGraphQL.FileTree

open Introspection (bind_eq_ok_iff map_eq_ok_iff)

variable {tree after : FileTree} {path text : String}

/-- The same files, and the same directories or more. -/
structure KeptIn (tree after : FileTree) : Prop where
  workingDirectory : after.workingDirectory = tree.workingDirectory
  files : ∀ place, after.fileAt? place = tree.fileAt? place
  directories : ∀ place, tree.IsDirectoryAt place → after.IsDirectoryAt place

theorem KeptIn.refl (tree : FileTree) : tree.KeptIn tree :=
  ⟨rfl, fun _ => rfl, fun _ => id⟩

theorem KeptIn.trans {between : FileTree} (first : tree.KeptIn between)
    (second : between.KeptIn after) : tree.KeptIn after :=
  ⟨second.workingDirectory.trans first.workingDirectory,
    fun place => (second.files place).trans (first.files place),
    fun place => second.directories place ∘ first.directories place⟩

theorem exists_of_locate {place : List String} (found : tree.locate path = .ok place)
    (other : ¬ tree.IsDirectoryAt place) :
    ∃ parent name, place = parent ++ [name] ∧ tree.IsDirectoryAt parent := by
  obtain rfl | exist := isDirectoryAt_of_locate found
  · exact absurd isDirectoryAt_nil other
  · exact exist

theorem exists_of_createDirectory (created : tree.createDirectory path = .ok after) :
    ∃ parent name, tree.IsDirectoryAt parent ∧ tree.get? (parent ++ [name]) = none ∧
      after = tree.put (parent ++ [name]) (.directory []) := by
  obtain ⟨place, located, created⟩ := bind_eq_ok_iff.mp created
  split at created
  next entry found => contradiction
  next missing =>
    have other : ¬ tree.IsDirectoryAt place := by simp [IsDirectoryAt, missing]
    obtain ⟨parent, name, rfl, lies⟩ := exists_of_locate located other
    exact ⟨parent, name, lies, missing, (Except.ok.inj created).symm⟩

theorem exists_of_writeText (written : tree.writeText path text = .ok after) :
    ∃ parent name, tree.locate path = .ok (parent ++ [name]) ∧
      tree.IsDirectoryAt parent ∧ ¬ tree.IsDirectoryAt (parent ++ [name]) ∧
        after = tree.put (parent ++ [name]) (.file text.toUTF8) := by
  obtain ⟨place, writable, rfl⟩ := map_eq_ok_iff.mp written
  rw [writablePlace] at writable
  split at writable
  next closed =>
    obtain ⟨_, -, writable⟩ := bind_eq_ok_iff.mp writable
    obtain ⟨_, -, writable⟩ := bind_eq_ok_iff.mp writable
    obtain ⟨_, -, writable⟩ := bind_eq_ok_iff.mp writable
    contradiction
  next ended =>
    obtain ⟨_, located, writable⟩ := bind_eq_ok_iff.mp writable
    split at writable
    next here found => contradiction
    next other =>
      obtain rfl := Except.ok.inj writable
      have free : ¬ tree.IsDirectoryAt _ :=
        fun directory => directory.elim fun here found => other here found
      obtain ⟨parent, name, rfl, lies⟩ := exists_of_locate located free
      exact ⟨parent, name, located, lies, free, rfl⟩

theorem KeptIn.of_createDirectory (created : tree.createDirectory path = .ok after) :
    tree.KeptIn after := by
  obtain ⟨parent, name, lies, missing, rfl⟩ := exists_of_createDirectory created
  have free : ¬ tree.IsDirectoryAt (parent ++ [name]) := by
    simp [IsDirectoryAt, missing]
  have bare := FileEntry.isBare_directory_nil
  refine ⟨rfl, fun place => ?_, fun place => isDirectoryAt_put lies free bare⟩
  by_cases same : place = parent ++ [name]
  · subst same
    rw [fileAt?, fileAt?, get?_put_self lies, missing]
    rfl
  · exact fileAt?_put_of_ne lies free bare same

/--
The path leads to a file with the text, which lies in directories.  No other file
has changed, and no directory is gone.
-/
structure WrittenAt (tree : FileTree) (path text : String) (after : FileTree)
    (place : List String) : Prop where
  located : after.locate path = .ok place
  readBack : after.readText path = .ok text
  content : after.fileAt? place = some text.toUTF8
  parents : ∀ parent, parent <+: place → parent ≠ place → after.IsDirectoryAt parent
  others : ∀ other, other ≠ place → after.fileAt? other = tree.fileAt? other
  directories : ∀ other, tree.IsDirectoryAt other → after.IsDirectoryAt other

def WrittenIn (tree : FileTree) (path text : String) (after : FileTree) : Prop :=
  ∃ place, tree.WrittenAt path text after place

theorem readText_of_get? {place : List String} (located : tree.locate path = .ok place)
    (found : tree.get? place = some (.file text.toUTF8)) :
    tree.readText path = .ok text := by
  have bytes : tree.readBytes path = .ok text.toUTF8 := by
    refine bind_eq_ok_iff.mpr ⟨place, located, ?_⟩
    rw [found]
  have decoded : String.fromUTF8? text.toUTF8 = some text := dif_pos text.isValidUTF8
  refine bind_eq_ok_iff.mpr ⟨_, bytes, ?_⟩
  rw [decoded]

theorem WrittenIn.of_writeText (written : tree.writeText path text = .ok after) :
    tree.WrittenIn path text after := by
  obtain ⟨parent, name, located, lies, free, rfl⟩ := exists_of_writeText written
  have bare := FileEntry.isBare_file text.toUTF8
  have found := get?_put_self lies name (.file text.toUTF8)
  have again : (tree.put (parent ++ [name]) (.file text.toUTF8)).locate path =
      .ok (parent ++ [name]) := by
    refine locate_of_directories ?_ ?_ located
    · rfl
    · exact fun _ => isDirectoryAt_put lies free bare
  refine ⟨parent ++ [name], again, readText_of_get? again found, ?_,
    fun above within differs => ?_,
    fun other differs => fileAt?_put_of_ne lies free bare differs,
    fun other => isDirectoryAt_put lies free bare⟩
  · rw [fileAt?, found]
    rfl
  · obtain ⟨more, same⟩ := within
    have below : (tree.put (parent ++ [name]) (.file text.toUTF8)).get? (above ++ more) =
        some (.file text.toUTF8) := by rw [same, found]
    refine isDirectoryAt_of_get? below ?_
    rintro rfl
    exact differs (by rw [← same, List.append_nil])

theorem WrittenIn.of_keptIn {between : FileTree} (kept : tree.KeptIn between)
    (written : between.WrittenIn path text after) : tree.WrittenIn path text after := by
  obtain ⟨place, written⟩ := written
  exact ⟨place, { written with
    others := fun other differs =>
      (written.others other differs).trans (kept.files other)
    directories := fun other => written.directories other ∘ kept.directories other }⟩

/-! Operations that keep all files -/

def Keeps {α : Type} (operation : StateM FileTree α) : Prop :=
  ∀ tree : FileTree, tree.KeptIn (operation.run tree).2

theorem keeps_pure {α : Type} (result : α) : Keeps (pure result) :=
  KeptIn.refl

theorem Keeps.bind {α β : Type} {first : StateM FileTree α}
    {next : α → StateM FileTree β} (keeps : Keeps first)
    (nextKeeps : ∀ result, Keeps (next result)) : Keeps (first >>= next) :=
  fun tree => (keeps tree).trans (nextKeeps _ _)

theorem keeps_createDirectory (path : String) :
    Keeps (access.createDirectory path) := by
  intro tree
  show tree.KeptIn (change (·.createDirectory path) tree).2
  rw [change]
  cases created : tree.createDirectory path with
  | error fault => exact KeptIn.refl tree
  | ok after => exact KeptIn.of_createDirectory created

theorem keeps_acceptDirectory (path : String) (fault : FileFault) :
    Keeps (access.acceptDirectory path fault) := by
  refine Keeps.bind (fun tree => KeptIn.refl tree) fun found => ?_
  split <;> exact keeps_pure _

theorem keeps_createFrom (parts : List String) : Keeps (access.createFrom parts) := by
  induction parts with
  | nil => exact keeps_pure _
  | cons last before ih =>
      rw [FileAccess.createFrom]
      split
      next idle => exact ih
      next busy =>
        refine (keeps_createDirectory _).bind fun created => ?_
        split
        next => exact keeps_pure _
        next =>
          refine ih.bind fun above => ?_
          split
          next => exact keeps_pure _
          next =>
            refine (keeps_createDirectory _).bind fun again => ?_
            split
            next => exact keeps_pure _
            next => exact keeps_acceptDirectory _ _
        next => exact keeps_acceptDirectory _ _

theorem keeps_createDirectories (path : String) :
    Keeps (access.createDirectories path) :=
  keeps_createFrom _

theorem createDirectory_of_isDirectory (exist : tree.isDirectory path = true) :
    tree.createDirectory path = .error .alreadyExists := by
  rw [isDirectory] at exist
  split at exist
  next place located =>
    rw [createDirectory, located]
    dsimp only [bind, Except.bind]
    cases found : tree.get? place with
    | none => simp [found] at exist
    | some entry => rfl
  next => contradiction

theorem run_createFrom_of_idle {parts : List String}
    (idle : ∀ part ∈ parts, FilePath.isIdle part = true) :
    (access.createFrom parts).run tree = (.ok (), tree) := by
  induction parts with
  | nil => rfl
  | cons last before ih =>
      rw [List.forall_mem_cons] at idle
      rw [FileAccess.createFrom, if_pos idle.1]
      exact ih idle.2

theorem run_acceptDirectory_of_isDirectory (exist : tree.isDirectory path = true)
    (fault : FileFault) :
    (access.acceptDirectory path fault).run tree = (.ok (), tree) := by
  show (if tree.isDirectory path then _ else _ : StateM _ _).run tree = _
  rw [if_pos exist]
  rfl

theorem run_createDirectories_of_isDirectory {last : String} {before : List String}
    (split : FilePath.parts path = before ++ [last])
    (busy : FilePath.isIdle last = false) (exist : tree.isDirectory path = true) :
    (access.createDirectories path).run tree = (.ok (), tree) := by
  have whole : "/".intercalate (last :: before.reverse).reverse = path := by
    rw [List.reverse_cons, List.reverse_reverse, ← split, FilePath.intercalate_parts]
  have refused : (access.createDirectory path).run tree =
      (.error .alreadyExists, tree) := by
    show change (·.createDirectory path) tree = _
    rw [change, createDirectory_of_isDirectory exist]
  rw [FileAccess.createDirectories, split, List.reverse_concat, FileAccess.createFrom,
    if_neg (by simp [busy])]
  dsimp only
  rw [whole, StateT.run_bind, refused]
  exact run_acceptDirectory_of_isDirectory exist _

/-- Where a path leads to anything, no directory above it is missing. -/
theorem run_createDirectories_of_locate {parent : String} {place : List String}
    (above : FilePath.parent? path = some parent)
    (found : tree.locate path = .ok place) :
    (access.createDirectories parent).run tree = (.ok (), tree) := by
  obtain idle | goes := FilePath.goesOn_of_parent? above
  · exact run_createFrom_of_idle fun part member => idle part (List.mem_reverse.mp member)
  · obtain ⟨before, last, split, busy⟩ := goes.ends
    exact run_createDirectories_of_isDirectory split busy
      (isDirectory_of_goesOn goes found)

end TypedGraphQL.FileTree
