import TypedGraphQL.Proofs.Execution.Position

namespace TypedGraphQL

namespace Access

/-- An access reads a field, straight or through a selection, at a position. -/
inductive Reads :
    List Access → Position → String → String → Bool → Prop where
  | leaf {accesses : List Access} {name : String} {arguments : Arguments}
      (typeName : String) (member : .leaf name arguments ∈ accesses) :
      Reads accesses [(typeName, arguments.responseKey name)] name
        arguments.text true
  | composite {accesses : List Access} {name : String} {arguments : Arguments}
      {nested : List Access} (typeName : String)
      (member : .composite name arguments nested ∈ accesses) :
      Reads accesses [(typeName, arguments.responseKey name)] name
        arguments.text false
  | nested {accesses : List Access} {name : String} {arguments : Arguments}
      {nested : List Access} {position : Position} {other text : String}
      {isLeaf : Bool} (typeName : String)
      (member : .composite name arguments nested ∈ accesses)
      (read : Reads nested position other text isLeaf) :
      Reads accesses ((typeName, arguments.responseKey name) :: position)
        other text isLeaf
  | fragment {accesses : List Access} {typeName : String}
      {nested : List Access} {key : String} {position : Position}
      {name text : String} {isLeaf : Bool}
      (member : .fragment typeName nested ∈ accesses)
      (read : Reads nested ((typeName, key) :: position) name text isLeaf) :
      Reads accesses ((typeName, key) :: position) name text isLeaf

variable {position : Position} {name text : String} {isLeaf : Bool}

theorem Reads.mono {first second : List Access}
    (read : Reads first position name text isLeaf)
    (subset : ∀ access ∈ first, access ∈ second) :
    Reads second position name text isLeaf := by
  cases read with
  | leaf typeName member => exact .leaf typeName (subset _ member)
  | composite typeName member => exact .composite typeName (subset _ member)
  | nested typeName member read => exact .nested typeName (subset _ member) read
  | fragment member read => exact .fragment (subset _ member) read

theorem reads_append {first second : List Access} :
    Reads (first ++ second) position name text isLeaf ↔
      Reads first position name text isLeaf ∨
        Reads second position name text isLeaf := by
  constructor
  · intro read
    cases read with
    | leaf typeName member =>
        exact (List.mem_append.mp member).imp (.leaf typeName) (.leaf typeName)
    | composite typeName member =>
        exact (List.mem_append.mp member).imp (.composite typeName)
          (.composite typeName)
    | nested typeName member read =>
        exact (List.mem_append.mp member).imp (.nested typeName · read)
          (.nested typeName · read)
    | fragment member read =>
        exact (List.mem_append.mp member).imp (.fragment · read)
          (.fragment · read)
  · rintro (read | read)
    · exact read.mono fun access => List.mem_append_left _
    · exact read.mono fun access => List.mem_append_right _

@[simp] theorem not_reads_nil : ¬ Reads [] position name text isLeaf := by
  intro read
  cases read with
  | leaf _ member | composite _ member | nested _ member | fragment member =>
      simp at member

theorem reads_leaf {label : String} {arguments : Arguments} :
    Reads [.leaf label arguments] position name text isLeaf ↔
      ∃ typeName, position = [(typeName, arguments.responseKey label)] ∧
        label = name ∧ arguments.text = text ∧ isLeaf = true := by
  constructor
  · intro read
    cases read with
    | leaf typeName member =>
        cases List.mem_singleton.mp member
        exact ⟨typeName, rfl, rfl, rfl, rfl⟩
    | composite _ member | nested _ member | fragment member =>
        simp at member
  · rintro ⟨typeName, rfl, rfl, rfl, rfl⟩
    exact .leaf typeName (List.mem_singleton_self _)

theorem reads_composite {label : String} {arguments : Arguments}
    {nested : List Access} :
    Reads [.composite label arguments nested] position name text isLeaf ↔
      ∃ typeName rest,
        position = (typeName, arguments.responseKey label) :: rest ∧
          ((rest = [] ∧ label = name ∧ arguments.text = text ∧
              isLeaf = false) ∨
            Reads nested rest name text isLeaf) := by
  constructor
  · intro read
    cases read with
    | composite typeName member =>
        cases List.mem_singleton.mp member
        exact ⟨typeName, [], rfl, .inl ⟨rfl, rfl, rfl, rfl⟩⟩
    | nested typeName member read =>
        cases List.mem_singleton.mp member
        exact ⟨typeName, _, rfl, .inr read⟩
    | leaf _ member | fragment member => simp at member
  · rintro ⟨typeName, rest, rfl, ⟨rfl, rfl, rfl, rfl⟩ | read⟩
    · exact .composite typeName (List.mem_singleton_self _)
    · exact .nested typeName (List.mem_singleton_self _) read

theorem reads_fragment {typeCondition : String} {nested : List Access} :
    Reads [.fragment typeCondition nested] position name text isLeaf ↔
      (∃ key rest, position = (typeCondition, key) :: rest) ∧
        Reads nested position name text isLeaf := by
  constructor
  · intro read
    cases read with
    | fragment member read =>
        cases List.mem_singleton.mp member
        exact ⟨⟨_, _, rfl⟩, read⟩
    | leaf _ member | composite _ member | nested _ member => simp at member
  · rintro ⟨⟨key, rest, rfl⟩, read⟩
    exact .fragment (List.mem_singleton_self _) read

/-- Something is read only below a field that is read through a selection. -/
theorem Reads.enclosed {accesses : List Access} {front : Position}
    {step next : String × String} {rest : Position} :
    Reads accesses (front ++ step :: next :: rest) name text isLeaf →
      ∃ outer outerText,
        Reads accesses (front ++ [step]) outer outerText false := by
  generalize same : front ++ step :: next :: rest = position
  intro read
  induction read generalizing front with
  | leaf typeName member =>
      have lengths := congrArg List.length same
      simp at lengths
      omega
  | composite typeName member =>
      have lengths := congrArg List.length same
      simp at lengths
      omega
  | nested typeName member read ih =>
      cases front with
      | nil =>
          cases same
          exact ⟨_, _, .composite typeName member⟩
      | cons first front =>
          cases same
          obtain ⟨outer, outerText, enclosing⟩ := ih rfl
          exact ⟨outer, outerText, .nested typeName member enclosing⟩
  | fragment member read ih =>
      obtain ⟨outer, outerText, enclosing⟩ := ih same
      refine ⟨outer, outerText, ?_⟩
      cases front with
      | nil =>
          cases same
          exact .fragment member enclosing
      | cons first front =>
          cases same
          exact .fragment member enclosing

/--
At each position of a response one field is read, with the same written
arguments and always straight or always through a selection.
-/
def Consistent (accesses : List Access) : Prop :=
  ∀ position name other text otherText isLeaf otherIsLeaf,
    Reads accesses position name text isLeaf →
    Reads accesses position other otherText otherIsLeaf →
    name = other ∧ text = otherText ∧ isLeaf = otherIsLeaf

end Access

namespace Selection

/-- The requests ask where the accesses read, and mean what some access reads. -/
structure Serves (selections : List Selection) (accesses : List Access) :
    Prop where
  asked : ∀ {position name text isLeaf},
    Access.Reads accesses position name text isLeaf →
    AsksFor selections position
  meant : ∀ {position name text}, Asks selections position name text →
    ∃ isLeaf, Access.Reads accesses position name text isLeaf

theorem Serves.recordingRelation : RecordingRelation Serves where
  nil :=
    { asked := fun read => absurd read Access.not_reads_nil
      meant := fun asked => by
        obtain ⟨entry, member, -⟩ := asks_iff_exists.mp asked
        simp at member }
  leaf name arguments :=
    { asked := fun read => by
        obtain ⟨typeName, rfl, -⟩ := Access.reads_leaf.mp read
        exact asksFor_field.mpr ⟨typeName, [], rfl, .inl rfl⟩
      meant := fun asked => by
        obtain ⟨typeName, rest, rfl, ⟨rfl, rfl, rfl⟩ | asked⟩ :=
          asks_field.mp asked
        · exact ⟨true, .leaf typeName (List.mem_singleton_self _)⟩
        · obtain ⟨entry, member, -⟩ := asks_iff_exists.mp asked
          simp at member }
  composite name arguments _ _ nested :=
    { asked := fun read => by
        obtain ⟨typeName, rest, rfl, ⟨rfl, -⟩ | read⟩ :=
          Access.reads_composite.mp read
        · exact asksFor_field.mpr ⟨typeName, [], rfl, .inl rfl⟩
        · exact asksFor_field.mpr ⟨typeName, rest, rfl, .inr (nested.asked read)⟩
      meant := fun asked => by
        obtain ⟨typeName, rest, rfl, ⟨rfl, rfl, rfl⟩ | asked⟩ :=
          asks_field.mp asked
        · exact ⟨false, .composite typeName (List.mem_singleton_self _)⟩
        · obtain ⟨isLeaf, read⟩ := nested.meant asked
          exact ⟨isLeaf, .nested typeName (List.mem_singleton_self _) read⟩ }
  fragment typeName _ _ nested :=
    { asked := fun read => by
        obtain ⟨applies, read⟩ := Access.reads_fragment.mp read
        exact asksFor_fragment.mpr ⟨applies, nested.asked read⟩
      meant := fun asked => by
        obtain ⟨applies, asked⟩ := asks_fragment.mp asked
        obtain ⟨isLeaf, read⟩ := nested.meant asked
        exact ⟨isLeaf, Access.reads_fragment.mpr ⟨applies, read⟩⟩ }
  append first second :=
    { asked := fun read => by
        rcases Access.reads_append.mp read with read | read
        · obtain ⟨name, text, asked⟩ := first.asked read
          exact ⟨name, text, asks_append.mpr (.inl asked)⟩
        · obtain ⟨name, text, asked⟩ := second.asked read
          exact ⟨name, text, asks_append.mpr (.inr asked)⟩
      meant := fun asked => by
        rcases asks_append.mp asked with asked | asked
        · obtain ⟨isLeaf, read⟩ := first.meant asked
          exact ⟨isLeaf, Access.reads_append.mpr (.inl read)⟩
        · obtain ⟨isLeaf, read⟩ := second.meant asked
          exact ⟨isLeaf, Access.reads_append.mpr (.inr read)⟩ }
  mergeAll first second :=
    { asked := fun read => by
        apply asksFor_mergeAll
        rcases Access.reads_append.mp read with read | read
        · exact .inl (first.asked read)
        · exact .inr (second.asked read)
      meant := fun asked => by
        rcases asks_of_asks_mergeAll asked with asked | asked
        · obtain ⟨isLeaf, read⟩ := first.meant asked
          exact ⟨isLeaf, Access.reads_append.mpr (.inl read)⟩
        · obtain ⟨isLeaf, read⟩ := second.meant asked
          exact ⟨isLeaf, Access.reads_append.mpr (.inr read)⟩ }

end Selection

end TypedGraphQL
