import TypedGraphQL.Proofs.Syntax.Lexeme

namespace TypedGraphQL.Syntax

def Maybe (Part : List Lexeme → Prop) (lexemes : List Lexeme) : Prop :=
  lexemes = [] ∨ Part lexemes

def pair (given : String × List Lexeme) : List Lexeme :=
  .name given.1 :: .punctuator ':' :: given.2

inductive IsValue (constant : Bool) : List Lexeme → Prop where
  | varying {name : String} (varies : constant = false) :
      IsValue constant [.punctuator '$', .name name]
  | number : IsValue constant [.number]
  | string : IsValue constant [.string]
  | name {name : String} : IsValue constant [.name name]
  | list {items : List (List Lexeme)}
      (values : ∀ item ∈ items, IsValue constant item) :
      IsValue constant (enclosed '[' ']' items.flatten)
  | object {fields : List (String × List Lexeme)}
      (values : ∀ field ∈ fields, IsValue constant field.2) :
      IsValue constant (enclosed '\x7b' '\x7d' (fields.flatMap pair))

inductive IsArguments (constant : Bool) : List Lexeme → Prop where
  | given {arguments : List (String × List Lexeme)} (nonempty : arguments ≠ [])
      (values : ∀ argument ∈ arguments, IsValue constant argument.2) :
      IsArguments constant (enclosed '(' ')' (arguments.flatMap pair))

inductive IsDirectives (constant : Bool) : List Lexeme → Prop where
  | none : IsDirectives constant []
  | directive {name : String} {arguments rest : List Lexeme}
      (given : Maybe (IsArguments constant) arguments)
      (directives : IsDirectives constant rest) :
      IsDirectives constant
        (.punctuator '@' :: .name name :: (arguments ++ rest))

/-! Selections -/

inductive IsLabel : List Lexeme → Prop where
  | name {name : String} : IsLabel [.name name]
  | keyed {key name : String} :
      IsLabel [.name key, .punctuator ':', .name name]

inductive IsCondition : List Lexeme → Prop where
  | on {typeName : String} : IsCondition [.name "on", .name typeName]

inductive IsSelection : List Lexeme → Prop where
  | field {label arguments directives : List Lexeme}
      (labelled : IsLabel label) (given : Maybe (IsArguments false) arguments)
      (directed : IsDirectives false directives) :
      IsSelection (label ++ (arguments ++ directives))
  | fieldWith {label arguments directives : List Lexeme}
      {selections : List (List Lexeme)}
      (labelled : IsLabel label) (given : Maybe (IsArguments false) arguments)
      (directed : IsDirectives false directives) (nonempty : selections ≠ [])
      (nested : ∀ selection ∈ selections, IsSelection selection) :
      IsSelection (label ++ (arguments ++
        (directives ++ enclosed '\x7b' '\x7d' selections.flatten)))
  | spread {name : String} {directives : List Lexeme} (notOn : name ≠ "on")
      (directed : IsDirectives false directives) :
      IsSelection (.spread :: .name name :: directives)
  | inline {condition directives : List Lexeme}
      {selections : List (List Lexeme)}
      (conditional : Maybe IsCondition condition)
      (directed : IsDirectives false directives) (nonempty : selections ≠ [])
      (nested : ∀ selection ∈ selections, IsSelection selection) :
      IsSelection (.spread :: (condition ++
        (directives ++ enclosed '\x7b' '\x7d' selections.flatten)))

inductive IsSelectionSet : List Lexeme → Prop where
  | selections {selections : List (List Lexeme)} (nonempty : selections ≠ [])
      (each : ∀ selection ∈ selections, IsSelection selection) :
      IsSelectionSet (enclosed '\x7b' '\x7d' selections.flatten)

/-! Definitions -/

inductive IsType : List Lexeme → Prop where
  | name {name : String} : IsType [.name name]
  | list {element : List Lexeme} (type : IsType element) :
      IsType (enclosed '[' ']' element)
  | nonNullName {name : String} : IsType [.name name, .punctuator '!']
  | nonNullList {element : List Lexeme} (type : IsType element) :
      IsType (enclosed '[' ']' element ++ [.punctuator '!'])

inductive IsDescription : List Lexeme → Prop where
  | text : IsDescription [.string]

inductive IsDefault : List Lexeme → Prop where
  | equals {value : List Lexeme} (constant : IsValue true value) :
      IsDefault (.punctuator '=' :: value)

inductive IsVariable : List Lexeme → Prop where
  | declared {description type default directives : List Lexeme} {name : String}
      (described : Maybe IsDescription description) (typed : IsType type)
      (initial : Maybe IsDefault default)
      (directed : IsDirectives true directives) :
      IsVariable (description ++ (.punctuator '$' :: .name name ::
        .punctuator ':' :: (type ++ (default ++ directives))))

inductive IsVariables : List Lexeme → Prop where
  | declared {declarations : List (List Lexeme)} (nonempty : declarations ≠ [])
      (each : ∀ declared ∈ declarations, IsVariable declared) :
      IsVariables (enclosed '(' ')' declarations.flatten)

def operationKeywords : List String :=
  ["query", "mutation", "subscription"]

inductive IsDefinition : List Lexeme → Prop where
  | query {block : List Lexeme} (selects : IsSelectionSet block) :
      IsDefinition block
  | operation {description declarations directives block : List Lexeme}
      {keyword : String} {name? : Option String}
      (described : Maybe IsDescription description)
      (operates : keyword ∈ operationKeywords)
      (declared : Maybe IsVariables declarations)
      (directed : IsDirectives false directives)
      (selects : IsSelectionSet block) :
      IsDefinition (description ++ (.name keyword ::
        (name?.toList.map .name ++ (declarations ++ (directives ++ block)))))
  | fragment {description condition directives block : List Lexeme}
      {name : String} (described : Maybe IsDescription description)
      (notOn : name ≠ "on") (conditional : IsCondition condition)
      (directed : IsDirectives false directives)
      (selects : IsSelectionSet block) :
      IsDefinition (description ++ (.name "fragment" :: .name name ::
        (condition ++ (directives ++ block))))

inductive IsDocument : List Lexeme → Prop where
  | definitions {definitions : List (List Lexeme)}
      (nonempty : definitions ≠ [])
      (each : ∀ definition ∈ definitions, IsDefinition definition) :
      IsDocument definitions.flatten

/-- The text is an executable document. -/
def IsSentence (text : String) : Prop :=
  ∃ lexemes, Lexed text.toList lexemes ∧ IsDocument lexemes

/-! Braces -/

/--
No braces outside of parentheses are empty.  `depth` counts the open
parentheses; `opened` says whether a brace was opened right before.
-/
def filled (depth : Nat) (opened : Bool) : List Lexeme → Bool
  | [] => true
  | .punctuator '(' :: rest => filled (depth + 1) false rest
  | .punctuator ')' :: rest => filled (depth - 1) false rest
  | .punctuator '\x7b' :: rest => filled depth (depth = 0) rest
  | .punctuator '\x7d' :: rest => !opened && filled depth false rest
  | _ :: rest => filled depth false rest

/-- Nothing to find fault with, whatever comes after. -/
def Sound (depth : Nat) (lexemes : List Lexeme) : Prop :=
  ∀ opened rest, filled depth opened (lexemes ++ rest) =
    filled depth (opened && lexemes.isEmpty) rest

section Sound

variable {depth : Nat}

def Plain (depth : Nat) (lexeme : Lexeme) : Prop :=
  ∀ opened rest, filled depth opened (lexeme :: rest) = filled depth false rest

theorem Sound.nil : Sound depth [] := by
  intro opened rest
  rw [List.nil_append, List.isEmpty_nil, Bool.and_true]

theorem Sound.cons {lexeme : Lexeme} {lexemes : List Lexeme}
    (plain : Plain depth lexeme) (sound : Sound depth lexemes) :
    Sound depth (lexeme :: lexemes) := by
  intro opened rest
  rw [List.cons_append, plain, sound, Bool.false_and, List.isEmpty_cons,
    Bool.and_false]

theorem Sound.append {first second : List Lexeme} (firstSound : Sound depth first)
    (secondSound : Sound depth second) : Sound depth (first ++ second) := by
  intro opened rest
  have empty : (first ++ second).isEmpty = (first.isEmpty && second.isEmpty) := by
    cases first <;> simp
  rw [List.append_assoc, firstSound, secondSound, empty, Bool.and_assoc]

theorem Sound.flatten {parts : List (List Lexeme)}
    (each : ∀ part ∈ parts, Sound depth part) : Sound depth parts.flatten := by
  induction parts with
  | nil => exact .nil
  | cons part parts ih =>
      rw [List.flatten_cons]
      exact (each part (by simp)).append
        (ih fun other member => each other (by simp [member]))

theorem Sound.maybe {Part : List Lexeme → Prop} {lexemes : List Lexeme}
    (part : Maybe Part lexemes)
    (sound : ∀ {lexemes}, Part lexemes → Sound depth lexemes) :
    Sound depth lexemes := by
  rcases part with rfl | part
  · exact .nil
  · exact sound part

theorem Sound.enclosed_plain {first last : Char} {lexemes : List Lexeme}
    (opens : Plain depth (.punctuator first))
    (closes : Plain depth (.punctuator last)) (sound : Sound depth lexemes) :
    Sound depth (enclosed first last lexemes) :=
  .cons opens (sound.append (.cons closes .nil))

theorem Sound.enclosed_round {lexemes : List Lexeme}
    (sound : Sound (depth + 1) lexemes) :
    Sound depth (enclosed '(' ')' lexemes) := by
  intro opened rest
  simp only [enclosed, List.cons_append, List.append_assoc, List.nil_append,
    List.isEmpty_cons, Bool.and_false, filled]
  rw [sound, Bool.false_and]
  rfl

theorem Sound.enclosed_curly {lexemes : List Lexeme}
    (something : depth = 0 → lexemes ≠ []) (sound : Sound depth lexemes) :
    Sound depth (enclosed '\x7b' '\x7d' lexemes) := by
  intro opened rest
  have closes : (decide (depth = 0) && lexemes.isEmpty) = false := by
    simpa using something
  simp only [enclosed, List.cons_append, List.append_assoc, List.nil_append,
    List.isEmpty_cons, Bool.and_false, filled]
  rw [sound, closes]
  rfl

theorem plain_name {name : String} : Plain depth (.name name) :=
  fun _ _ => rfl

theorem Sound.name {name : String} : Sound depth [.name name] :=
  .cons plain_name .nil

theorem plain_colon : Plain depth (.punctuator ':') :=
  fun _ _ => rfl

theorem Sound.pairs {fields : List (String × List Lexeme)}
    (values : ∀ field ∈ fields, Sound depth field.2) :
    Sound depth (fields.flatMap pair) := by
  induction fields with
  | nil => exact .nil
  | cons field fields ih =>
      rw [List.flatMap_cons]
      have value := values field (by simp)
      exact (Sound.cons plain_name (.cons plain_colon value)).append
        (ih fun other member => values other (by simp [member]))

theorem IsValue.sound {constant : Bool} {lexemes : List Lexeme}
    (value : IsValue constant lexemes) : Sound (depth + 1) lexemes := by
  induction value with
  | varying => exact .cons (fun _ _ => rfl) .name
  | number | string => exact .cons (fun _ _ => rfl) .nil
  | name => exact .name
  | list values ih =>
      exact .enclosed_plain (fun _ _ => rfl) (fun _ _ => rfl) (.flatten ih)
  | object values ih => exact .enclosed_curly (by simp) (.pairs ih)

theorem IsArguments.sound {constant : Bool} {lexemes : List Lexeme}
    (arguments : IsArguments constant lexemes) : Sound depth lexemes := by
  obtain ⟨_, values⟩ := arguments
  exact .enclosed_round (.pairs fun argument member =>
    (values argument member).sound)

theorem IsDirectives.sound {constant : Bool} {lexemes : List Lexeme}
    (directives : IsDirectives constant lexemes) : Sound depth lexemes := by
  induction directives with
  | none => exact .nil
  | directive given _ ih =>
      have arguments : Sound depth _ := Sound.maybe given IsArguments.sound
      exact .cons (fun _ _ => rfl) (.cons plain_name (arguments.append ih))

theorem IsLabel.sound {lexemes : List Lexeme} (label : IsLabel lexemes) :
    Sound depth lexemes := by
  cases label with
  | name => exact .name
  | keyed => exact .cons plain_name (.cons plain_colon .name)

theorem IsCondition.sound {lexemes : List Lexeme}
    (condition : IsCondition lexemes) : Sound depth lexemes := by
  cases condition
  exact .cons plain_name .name

theorem IsSelection.ne_nil {lexemes : List Lexeme}
    (selection : IsSelection lexemes) : lexemes ≠ [] := by
  cases selection with
  | field labelled | fieldWith labelled => cases labelled <;> simp
  | spread | inline => simp

theorem flatten_ne_nil {Part : List Lexeme → Prop} {parts : List (List Lexeme)}
    (nonempty : parts ≠ []) (each : ∀ part ∈ parts, Part part)
    (filled : ∀ {lexemes}, Part lexemes → lexemes ≠ []) :
    parts.flatten ≠ [] := by
  cases parts with
  | nil => contradiction
  | cons part parts =>
      have first := filled (each part (by simp))
      simp [first]

theorem IsSelection.sound {lexemes : List Lexeme}
    (selection : IsSelection lexemes) : Sound 0 lexemes := by
  induction selection with
  | field labelled given directed =>
      exact labelled.sound.append
        ((Sound.maybe given IsArguments.sound).append directed.sound)
  | fieldWith labelled given directed nonempty nested ih =>
      have block := Sound.enclosed_curly
        (fun _ => flatten_ne_nil nonempty nested IsSelection.ne_nil)
        (.flatten ih)
      exact labelled.sound.append ((Sound.maybe given IsArguments.sound).append
        (directed.sound.append block))
  | spread _ directed =>
      exact .cons (fun _ _ => rfl) (.cons plain_name directed.sound)
  | inline conditional directed nonempty nested ih =>
      have block := Sound.enclosed_curly
        (fun _ => flatten_ne_nil nonempty nested IsSelection.ne_nil)
        (.flatten ih)
      exact .cons (fun _ _ => rfl)
        ((Sound.maybe conditional IsCondition.sound).append
          (directed.sound.append block))

theorem IsSelectionSet.sound {lexemes : List Lexeme}
    (selects : IsSelectionSet lexemes) : Sound 0 lexemes := by
  obtain ⟨nonempty, each⟩ := selects
  exact .enclosed_curly
    (fun _ => flatten_ne_nil nonempty each IsSelection.ne_nil)
    (.flatten fun selection member => (each selection member).sound)

theorem IsType.sound {lexemes : List Lexeme} (type : IsType lexemes) :
    Sound depth lexemes := by
  induction type with
  | name => exact .name
  | list _ ih => exact .enclosed_plain (fun _ _ => rfl) (fun _ _ => rfl) ih
  | nonNullName => exact .cons plain_name (.cons (fun _ _ => rfl) .nil)
  | nonNullList _ ih =>
      exact (Sound.enclosed_plain (fun _ _ => rfl) (fun _ _ => rfl) ih).append
        (.cons (fun _ _ => rfl) .nil)

theorem IsDescription.sound {lexemes : List Lexeme}
    (description : IsDescription lexemes) : Sound depth lexemes := by
  cases description
  exact .cons (fun _ _ => rfl) .nil

theorem IsDefault.sound {lexemes : List Lexeme} (default : IsDefault lexemes) :
    Sound (depth + 1) lexemes := by
  obtain ⟨constant⟩ := default
  exact .cons (fun _ _ => rfl) constant.sound

theorem IsVariable.sound {lexemes : List Lexeme}
    (declared : IsVariable lexemes) : Sound (depth + 1) lexemes := by
  obtain ⟨described, typed, initial, directed⟩ := declared
  have type : Sound (depth + 1) _ := typed.sound.append
    ((Sound.maybe initial IsDefault.sound).append directed.sound)
  exact (Sound.maybe described IsDescription.sound).append
    (.cons (fun _ _ => rfl) (.cons plain_name (.cons plain_colon type)))

theorem IsVariables.sound {lexemes : List Lexeme}
    (declarations : IsVariables lexemes) : Sound depth lexemes := by
  obtain ⟨_, each⟩ := declarations
  exact .enclosed_round (.flatten fun declared member =>
    (each declared member).sound)

theorem IsDefinition.sound {lexemes : List Lexeme}
    (definition : IsDefinition lexemes) : Sound 0 lexemes := by
  cases definition with
  | query selects => exact selects.sound
  | @operation _ _ _ _ _ name? described _ declared directed selects =>
      have named : Sound 0 (name?.toList.map Lexeme.name) := by
        cases name?
        · exact .nil
        · exact .name
      exact (Sound.maybe described IsDescription.sound).append
        (.cons plain_name (named.append
          ((Sound.maybe declared IsVariables.sound).append
            (directed.sound.append selects.sound))))
  | fragment described _ conditional directed selects =>
      exact (Sound.maybe described IsDescription.sound).append
        (.cons plain_name (.cons plain_name (conditional.sound.append
          (directed.sound.append selects.sound))))

end Sound

theorem IsDocument.filled {lexemes : List Lexeme}
    (document : IsDocument lexemes) : filled 0 false lexemes = true := by
  obtain ⟨-, each⟩ := document
  have sound := Sound.flatten fun definition member =>
    (each definition member).sound
  simpa [Syntax.filled] using sound false []

end TypedGraphQL.Syntax
