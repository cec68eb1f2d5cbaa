import TypedGraphQL.Proofs.Syntax.Written

namespace TypedGraphQL.Syntax

inductive Tree where
  | token (token : Token)
  | group (bracket : Bracket) (trees : List Tree)
deriving Repr

/-- The open brackets with the trees read since, innermost first. -/
abbrev Frames := List (Bracket × List Tree)

def place (tree : Tree) : Frames → Tree ⊕ Frames
  | [] => .inl tree
  | (bracket, before) :: outer => .inr ((bracket, before ++ [tree]) :: outer)

def step (frames : Frames) : Token → Option (Tree ⊕ Frames)
  | .opening bracket => some (.inr ((bracket, []) :: frames))
  | .closing bracket =>
    match frames with
    | [] => none
    | (opened, trees) :: outer =>
      if opened = bracket then some (place (.group bracket trees) outer)
      else none
  | token => some (place (.token token) frames)

def readTree? (frames : Frames) (text : List Char) :
    Option (Tree × List Char) :=
  match _read : token? text with
  | none => none
  | some (token, rest) =>
    match step frames token with
    | none => none
    | some (.inl tree) => some (tree, rest)
    | some (.inr frames) => readTree? frames rest
termination_by text.length
decreasing_by exact length_token?_lt _read

def tree? (text : List Char) : Option (Tree × List Char) :=
  readTree? [] text

def resume? (rest : List Char) : Tree ⊕ Frames → Option (Tree × List Char)
  | .inl tree => some (tree, rest)
  | .inr frames => readTree? frames rest

theorem readTree?_of_token? {frames : Frames} {text rest : List Char}
    {token : Token} (read : token? text = some (token, rest)) :
    readTree? frames text = (step frames token).bind (resume? rest) := by
  rw [readTree?]
  split
  next unread => rw [read] at unread; contradiction
  next other remaining found =>
    rw [read] at found
    cases found
    cases stepped : step frames token with
    | none => rfl
    | some result => cases result <;> rfl

theorem readTree?_eq_none {frames : Frames} {text : List Char}
    (unread : token? text = none) : readTree? frames text = none := by
  rw [readTree?]
  split
  next => rfl
  next found =>
    rw [unread] at found
    contradiction

theorem readTree?_congr {frames : Frames} {text other : List Char}
    (same : token? text = token? other) :
    readTree? frames text = readTree? frames other := by
  cases read : token? other with
  | none =>
      rw [readTree?_eq_none read, readTree?_eq_none (same.trans read)]
  | some result =>
      rw [readTree?_of_token? read, readTree?_of_token? (same.trans read)]

/-! Texts that are read as certain trees -/

/-- The text is one tree wherever it stands in front of a boundary. -/
def ReadsAsTree (text : List Char) (tree : Tree) : Prop :=
  ∀ frames rest, Boundary rest →
    readTree? frames (text ++ rest) = resume? rest (place tree frames)

/-- The same for any number of trees inside brackets. -/
def ReadsAs (text : List Char) (trees : List Tree) : Prop :=
  ∀ bracket before outer rest, Boundary rest →
    readTree? ((bracket, before) :: outer) (text ++ rest) =
      readTree? ((bracket, before ++ trees) :: outer) rest

/-- Whatever stands in front of the text is over there. -/
def Apart (text : List Char) : Prop :=
  ∀ rest, Boundary rest → Boundary (text ++ rest)

theorem Apart.cons {c : Char} {text : List Char} (member : c ∈ boundaries) :
    Apart (c :: text) :=
  fun _ _ => .cons member

theorem Apart.nil : Apart [] := by
  intro rest boundary
  exact boundary

theorem Apart.append {first second : List Char} (firstApart : Apart first)
    (secondApart : Apart second) : Apart (first ++ second) := by
  intro rest boundary
  rw [List.append_assoc]
  exact firstApart _ (secondApart rest boundary)

theorem ReadsAsTree.tree? {text : List Char} {tree : Tree}
    (reads : ReadsAsTree text tree) {rest : List Char}
    (boundary : Boundary rest) : tree? (text ++ rest) = some (tree, rest) :=
  reads [] rest boundary

theorem ReadsAsTree.readsAs {text : List Char} {tree : Tree}
    (reads : ReadsAsTree text tree) : ReadsAs text [tree] :=
  fun _ _ _ rest boundary => reads _ rest boundary

theorem ReadsAs.nil : ReadsAs [] [] := by
  intro bracket before outer rest _
  rw [List.nil_append, List.append_nil]

theorem ReadsAs.append {first second : List Char}
    {firstTrees secondTrees : List Tree} (firstReads : ReadsAs first firstTrees)
    (secondReads : ReadsAs second secondTrees) (apart : Apart second) :
    ReadsAs (first ++ second) (firstTrees ++ secondTrees) := by
  intro bracket before outer rest boundary
  rw [List.append_assoc, firstReads _ _ _ _ (apart rest boundary),
    secondReads _ _ _ _ boundary, List.append_assoc]

theorem ReadsAs.blank {text : List Char} {trees : List Tree}
    (reads : ReadsAs text trees) : ReadsAs (' ' :: text) trees := by
  intro bracket before outer rest boundary
  rw [List.cons_append, readTree?_congr (token?_blank _)]
  exact reads bracket before outer rest boundary

theorem ReadsAs.comma {text : List Char} {trees : List Tree}
    (reads : ReadsAs text trees) : ReadsAs (',' :: text) trees := by
  intro bracket before outer rest boundary
  rw [List.cons_append, readTree?_congr (token?_comma _)]
  exact reads bracket before outer rest boundary

theorem ReadsAsTree.token {text : List Char} {token : Token}
    (read : ∀ rest, Boundary rest → token? (text ++ rest) = some (token, rest))
    (plain : ∀ frames, step frames token = some (place (.token token) frames)) :
    ReadsAsTree text (.token token) := by
  intro frames rest boundary
  rw [readTree?_of_token? (read rest boundary), plain, Option.bind_some]

def Bracket.openChar : Bracket → Char
  | round => '('
  | square => '['
  | curly => '\x7b'

def Bracket.closeChar : Bracket → Char
  | round => ')'
  | square => ']'
  | curly => '\x7d'

theorem token?_openChar (bracket : Bracket) (rest : List Char) :
    token? (bracket.openChar :: rest) = some (.opening bracket, rest) := by
  cases bracket <;> rfl

theorem token?_closeChar (bracket : Bracket) (rest : List Char) :
    token? (bracket.closeChar :: rest) = some (.closing bracket, rest) := by
  cases bracket <;> rfl

theorem Bracket.closeChar_mem (bracket : Bracket) :
    bracket.closeChar ∈ boundaries := by
  cases bracket <;> decide

theorem ReadsAsTree.group (bracket : Bracket) {text : List Char}
    {trees : List Tree} (reads : ReadsAs text trees) :
    ReadsAsTree (bracket.openChar :: text ++ [bracket.closeChar])
      (.group bracket trees) := by
  intro frames rest boundary
  rw [List.append_assoc, List.singleton_append, List.cons_append,
    readTree?_of_token? (token?_openChar bracket _), step, Option.bind_some,
    resume?, reads _ _ _ _ (.cons bracket.closeChar_mem), List.nil_append,
    readTree?_of_token? (token?_closeChar bracket rest), step, if_pos rfl,
    Option.bind_some]

end TypedGraphQL.Syntax
