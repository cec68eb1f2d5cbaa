import TypedGraphQL.Files.Tree

namespace TypedGraphQL

namespace FileEntry

/-- What the names lead to from an entry on. -/
def at? : FileEntry → List String → Option FileEntry
  | entry, [] => some entry
  | directory here, name :: names => (here.lookup name).bind fun entry => entry.at? names
  | file _, _ :: _ => none

def content? : FileEntry → Option ByteArray
  | file content => some content
  | directory _ => none

def IsBare (entry : FileEntry) : Prop :=
  ∀ name names, entry.at? (name :: names) = none

theorem isBare_file (content : ByteArray) : (file content).IsBare :=
  fun _ _ => rfl

theorem isBare_directory_nil : (directory []).IsBare :=
  fun _ _ => rfl

theorem at?_append (entry : FileEntry) (names more : List String) :
    entry.at? (names ++ more) = (entry.at? names).bind (·.at? more) := by
  induction names generalizing entry with
  | nil => rfl
  | cons name names ih =>
      cases entry with
      | file content => rfl
      | directory here =>
          simp only [List.cons_append, at?]
          cases here.lookup name with
          | none => rfl
          | some inner => exact ih inner

end FileEntry

namespace Directory

open FileEntry (at? content?)

variable {here : Directory} {entry : FileEntry}

theorem get?_eq_at? (here : Directory) (names : List String) :
    here.get? names = at? (.directory here) names := by
  induction names generalizing here with
  | nil => rfl
  | cons name names ih =>
      cases names with
      | nil => simp [get?, at?]
      | cons second rest =>
          simp only [get?]
          rw [at?]
          cases here.lookup name with
          | none => rfl
          | some inner =>
              cases inner with
              | file content => rfl
              | directory inner => exact ih inner

theorem at?_put_self {parent : List String} {inner : Directory}
    (lies : at? (.directory here) parent = some (.directory inner)) (name : String) :
    at? (.directory (here.put (parent ++ [name]) entry)) (parent ++ [name]) =
      some entry := by
  induction parent generalizing here with
  | nil => simp [put, at?]
  | cons first parent ih =>
      cases found : here.lookup first with
      | none => simp [at?, found] at lies
      | some next =>
          simp only [at?, found, Option.bind_some] at lies
          cases next with
          | file content => cases parent <;> simp [at?] at lies
          | directory next =>
              have step := ih lies
              cases parent with
              | nil => simp [put, at?, found]
              | cons second parent => simpa [put, at?, found] using step

/-- A place keeps its file or stays a directory if another does not lie above it. -/
theorem content?_put_of_not_prefix {place other : List String}
    (apart : ¬ place <+: other) :
    (at? (.directory (here.put place entry)) other).map content? =
      (at? (.directory here) other).map content? := by
  induction place generalizing here other with
  | nil => exact absurd List.nil_prefix apart
  | cons name place ih =>
      cases other with
      | nil => rfl
      | cons first other =>
          cases place with
          | nil =>
              have differs : (first == name) = false := by
                refine beq_false_of_ne ?_
                rintro rfl
                exact apart (List.prefix_append [first] other)
              simp [put, at?, List.lookup_cons, differs]
          | cons second place =>
              cases found : here.lookup name with
              | none => simp [put, found]
              | some next =>
                  cases next with
                  | file content => simp [put, found]
                  | directory next =>
                      by_cases same : first = name
                      · subst same
                        have inner : ¬ second :: place <+: other :=
                          fun within => apart (List.cons_prefix_cons.mpr ⟨rfl, within⟩)
                        simpa [put, at?, found] using ih inner
                      · simp [put, at?, found, List.lookup_cons, beq_false_of_ne same]

end Directory

namespace FileTree

open FileEntry (content?)

variable {tree : FileTree}

def fileAt? (tree : FileTree) (place : List String) : Option ByteArray :=
  (tree.get? place).bind content?

def IsDirectoryAt (tree : FileTree) (place : List String) : Prop :=
  ∃ here, tree.get? place = some (.directory here)

theorem get?_append (place more : List String) :
    tree.get? (place ++ more) = (tree.get? place).bind (·.at? more) := by
  simp only [get?, Directory.get?_eq_at?, FileEntry.at?_append]

theorem isDirectoryAt_nil : tree.IsDirectoryAt [] :=
  ⟨tree.root, by rw [get?, Directory.get?]⟩

theorem isDirectoryAt_of_get? {place more : List String} {entry : FileEntry}
    (found : tree.get? (place ++ more) = some entry) (below : more ≠ []) :
    tree.IsDirectoryAt place := by
  rw [get?_append] at found
  cases above : tree.get? place with
  | none => simp [above] at found
  | some next =>
      cases next with
      | directory here => exact ⟨here, above⟩
      | file content =>
          cases more with
          | nil => contradiction
          | cons name more => simp [above, FileEntry.at?] at found

theorem get?_put_self {parent : List String} (lies : tree.IsDirectoryAt parent)
    (name : String) (entry : FileEntry) :
    (tree.put (parent ++ [name]) entry).get? (parent ++ [name]) = some entry := by
  obtain ⟨inner, lies⟩ := lies
  rw [get?, Directory.get?_eq_at?] at lies
  rw [put, get?, Directory.get?_eq_at?]
  exact Directory.at?_put_self lies name

theorem fileAt?_eq_join (tree : FileTree) (place : List String) :
    tree.fileAt? place = ((tree.get? place).map content?).join := by
  rw [fileAt?]
  cases tree.get? place <;> rfl

theorem isDirectoryAt_iff_content? {place : List String} :
    tree.IsDirectoryAt place ↔ (tree.get? place).map content? = some none := by
  rw [IsDirectoryAt]
  cases tree.get? place with
  | none => simp
  | some entry => cases entry <;> simp [content?]

section Put

variable {parent : List String} {name : String} {entry : FileEntry}
  (lies : tree.IsDirectoryAt parent) (free : ¬ tree.IsDirectoryAt (parent ++ [name]))
  (bare : entry.IsBare)

include lies free bare

theorem content?_put_of_ne {other : List String} (differs : other ≠ parent ++ [name]) :
    ((tree.put (parent ++ [name]) entry).get? other).map content? =
      (tree.get? other).map content? := by
  by_cases below : parent ++ [name] <+: other
  · obtain ⟨more, rfl⟩ := below
    cases more with
    | nil => simp at differs
    | cons next more =>
        have missing : tree.get? (parent ++ [name] ++ next :: more) = none := by
          rw [Option.eq_none_iff_forall_ne_some]
          exact fun former found => free (isDirectoryAt_of_get? found (by simp))
        rw [missing, get?_append, get?_put_self lies, Option.bind_some, bare]
  · simp only [get?, put, Directory.get?_eq_at?]
    exact Directory.content?_put_of_not_prefix below

theorem fileAt?_put_of_ne {other : List String} (differs : other ≠ parent ++ [name]) :
    (tree.put (parent ++ [name]) entry).fileAt? other = tree.fileAt? other := by
  rw [fileAt?_eq_join, fileAt?_eq_join, content?_put_of_ne lies free bare differs]

theorem isDirectoryAt_put {other : List String} (directory : tree.IsDirectoryAt other) :
    (tree.put (parent ++ [name]) entry).IsDirectoryAt other := by
  have differs : other ≠ parent ++ [name] := fun same => free (same ▸ directory)
  rw [isDirectoryAt_iff_content?, content?_put_of_ne lies free bare differs]
  exact isDirectoryAt_iff_content?.mp directory

end Put

end FileTree

end TypedGraphQL
