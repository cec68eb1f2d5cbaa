import TypedGraphQL.Proofs.Number.Shortest
import TypedGraphQL.Proofs.Syntax.Value

namespace TypedGraphQL.Syntax

inductive Lexeme where
  | name (text : String)
  | number
  | string
  | punctuator (c : Char)
  | spread
deriving DecidableEq, Repr

def enclosed (first last : Char) (lexemes : List Lexeme) : List Lexeme :=
  .punctuator first :: lexemes ++ [.punctuator last]

def punctuators : List Char :=
  ['!', '$', '&', '(', ')', ':', '=', '@', '[', ']', '\x7b', '|', '\x7d']

def afterNumber? (text : List Char) : Option (List Char) :=
  let (numeral, rest) := Numeral.split text
  if numeral.isWellFormed ∧ rest.head?.all (fun c => !isNameStart c && c != '.')
  then some rest else none

inductive StringState where
  | plain
  | escape
  | code
  | codeDigits (missing : Nat)
  | codeBraces (digits : Nat)

def escapeLetters : List Char :=
  ['"', '\\', '/', 'b', 'f', 'n', 'r', 't']

def StringState.next? (c : Char) : StringState → Option StringState
  | plain =>
    if c = '\\' then some escape
    else if c = '\n' ∨ c = '\r' then none
    else some plain
  | escape =>
    if c = 'u' then some code
    else if escapeLetters.contains c then some plain
    else none
  | code =>
    if c = '\x7b' then some (codeBraces 0)
    else (Text.hexValue? c).map fun _ => codeDigits 3
  | codeDigits missing =>
    (Text.hexValue? c).map fun _ =>
      if missing ≤ 1 then plain else codeDigits (missing - 1)
  | codeBraces digits =>
    if c = '\x7d' then (if digits = 0 then none else some plain)
    else (Text.hexValue? c).map fun _ => codeBraces (digits + 1)

def afterString? : StringState → List Char → Option (List Char)
  | _, [] => none
  | state, c :: rest =>
    match state, c with
    | .plain, '"' => some rest
    | state, c => (state.next? c).bind (afterString? · rest)

def afterBlockString? : List Char → Option (List Char)
  | '"' :: '"' :: '"' :: rest => some rest
  | '\\' :: '"' :: '"' :: '"' :: rest => afterBlockString? rest
  | _ :: rest => afterBlockString? rest
  | [] => none

/-- The next lexeme and the text after it. -/
def lexeme? (text : List Char) : Option (Lexeme × List Char) :=
  match unignored false text with
  | [] => none
  | c :: rest =>
    if isNameStart c then
      some (.name (String.ofList (c :: rest.takeWhile isNameContinue)),
        rest.dropWhile isNameContinue)
    else if c.isDigit ∨ c = '-' then
      (afterNumber? (c :: rest)).map (.number, ·)
    else if c = '"' then
      (if ['"', '"'].isPrefixOf rest then afterBlockString? (rest.drop 2)
        else afterString? .plain rest).map (.string, ·)
    else if c = '.' then
      if ['.', '.'].isPrefixOf rest then some (.spread, rest.drop 2) else none
    else if punctuators.contains c then some (.punctuator c, rest)
    else none

/-- The lexemes of a whole text, one after the other. -/
inductive Lexed : List Char → List Lexeme → Prop where
  | nil {text : List Char} (ended : unignored false text = []) : Lexed text []
  | cons {text rest : List Char} {lexeme : Lexeme} {lexemes : List Lexeme}
      (read : lexeme? text = some (lexeme, rest)) (lexed : Lexed rest lexemes) :
      Lexed text (lexeme :: lexemes)

theorem lexeme?_eq_none {text : List Char} (ended : unignored false text = []) :
    lexeme? text = none := by
  rw [lexeme?, ended]

theorem Lexed.unique {text : List Char} {lexemes others : List Lexeme}
    (lexed : Lexed text lexemes) (other : Lexed text others) :
    lexemes = others := by
  induction lexed generalizing others with
  | nil ended =>
      cases other with
      | nil => rfl
      | cons read => rw [lexeme?_eq_none ended] at read; contradiction
  | cons read _ ih =>
      cases other with
      | nil ended => rw [lexeme?_eq_none ended] at read; contradiction
      | cons otherRead otherLexed =>
          rw [read, Option.some.injEq, Prod.mk.injEq] at otherRead
          obtain ⟨rfl, rfl⟩ := otherRead
          rw [ih otherLexed]

theorem Lexed.congr {text other : List Char} {lexemes : List Lexeme}
    (lexed : Lexed text lexemes)
    (same : unignored false other = unignored false text) :
    Lexed other lexemes := by
  cases lexed with
  | nil ended => exact .nil (same.trans ended)
  | cons read lexed =>
      refine .cons ?_ lexed
      rw [lexeme?, same]
      exact read

/-! Texts that spell certain lexemes -/

/-- The text is read as the lexemes wherever it stands in front of a boundary. -/
def Spells (text : List Char) (lexemes : List Lexeme) : Prop :=
  ∀ rest others, Boundary rest → Lexed rest others →
    Lexed (text ++ rest) (lexemes ++ others)

theorem Spells.nil : Spells [] [] := by
  intro rest others _ lexed
  exact lexed

theorem Spells.append {first second : List Char} {lexemes others : List Lexeme}
    (firstSpells : Spells first lexemes) (secondSpells : Spells second others)
    (apart : Apart second) : Spells (first ++ second) (lexemes ++ others) := by
  intro rest following boundary lexed
  rw [List.append_assoc, List.append_assoc]
  exact firstSpells _ _ (apart rest boundary)
    (secondSpells rest following boundary lexed)

theorem Spells.blank {text : List Char} {lexemes : List Lexeme}
    (spells : Spells text lexemes) : Spells (' ' :: text) lexemes := by
  intro rest others boundary lexed
  exact (spells rest others boundary lexed).congr rfl

theorem Spells.comma {text : List Char} {lexemes : List Lexeme}
    (spells : Spells text lexemes) : Spells (',' :: text) lexemes := by
  intro rest others boundary lexed
  exact (spells rest others boundary lexed).congr rfl

theorem Spells.lexeme {text : List Char} {lexeme : Lexeme}
    (read : ∀ rest, Boundary rest →
      lexeme? (text ++ rest) = some (lexeme, rest)) :
    Spells text [lexeme] := by
  intro rest others boundary lexed
  exact .cons (read rest boundary) lexed

theorem Spells.cons_punctuator {c : Char} {text : List Char}
    {lexemes : List Lexeme}
    (read : ∀ rest, lexeme? (c :: rest) = some (.punctuator c, rest))
    (spells : Spells text lexemes) :
    Spells (c :: text) (.punctuator c :: lexemes) := by
  intro rest others boundary lexed
  exact .cons (read _) (spells rest others boundary lexed)

theorem Spells.group (first last : Char) {text : List Char}
    {lexemes : List Lexeme}
    (opens : ∀ rest, lexeme? (first :: rest) = some (.punctuator first, rest))
    (closes : ∀ rest, lexeme? (last :: rest) = some (.punctuator last, rest))
    (boundary : last ∈ boundaries) (spells : Spells text lexemes) :
    Spells (first :: text ++ [last]) (enclosed first last lexemes) :=
  (spells.cons_punctuator opens).append
    (Spells.nil.cons_punctuator closes) (.cons boundary)

inductive SpellAll : List String → List (List Lexeme) → Prop where
  | nil : SpellAll [] []
  | cons {text : String} {texts : List String} {part : List Lexeme}
      {parts : List (List Lexeme)} (spells : Spells text.toList part)
      (restSpell : SpellAll texts parts) :
      SpellAll (text :: texts) (part :: parts)

/-- A separator spells nothing and keeps the texts around it apart. -/
def SpellsApart (separator : String) : Prop :=
  ∀ text lexemes, Spells text lexemes →
    Spells (separator.toList ++ text) lexemes ∧
      Apart (separator.toList ++ text)

theorem spellsApart_blank : SpellsApart " " :=
  fun _ _ spells => ⟨spells.blank, .cons (by decide)⟩

theorem spellsApart_comma : SpellsApart ", " :=
  fun _ _ spells => ⟨spells.blank.comma, .cons (by decide)⟩

theorem SpellAll.intercalate {separator : String}
    (separates : SpellsApart separator) {texts : List String}
    {parts : List (List Lexeme)} (spell : SpellAll texts parts) :
    Spells (separator.intercalate texts).toList parts.flatten := by
  induction spell with
  | nil => exact .nil
  | cons first restSpell ih =>
      cases restSpell with
      | nil => simpa using first
      | cons second others =>
          obtain ⟨separated, apart⟩ := separates _ _ ih
          rw [String.intercalate_cons_cons, String.toList_append,
            String.toList_append, List.append_assoc, List.flatten_cons]
          exact first.append separated apart

def Token.lexeme : Token → Lexeme
  | name text => .name text
  | int _ | float _ => .number
  | string _ => .string
  | opening bracket => .punctuator bracket.openChar
  | closing bracket => .punctuator bracket.closeChar
  | punctuator c => .punctuator c
  | spread => .spread

theorem afterNumber?_of_number? {text rest : List Char} {token : Token}
    (read : number? text = some (token, rest)) :
    afterNumber? text = some rest ∧ token.lexeme = .number := by
  simp only [number?] at read
  split at read
  · contradiction
  next ends =>
    obtain ⟨other, accepted, same⟩ := Option.map_eq_some_iff.mp read
    cases same
    rw [Numeral.token?] at accepted
    split at accepted
    · contradiction
    next wellFormed =>
      simp only [Bool.not_eq_true', Bool.not_eq_false] at wellFormed
      refine ⟨?_, ?_⟩
      · simp only [afterNumber?, wellFormed, true_and]
        rw [if_pos]
        cases found : (Numeral.split text).2.head? with
        | none => rfl
        | some c => simpa [found] using ends
      · split at accepted
        · cases accepted
          rfl
        · obtain ⟨_, -, rfl⟩ := Option.map_eq_some_iff.mp accepted
          rfl

theorem afterString?_code {first second third fourth c : Char}
    (decoded : codeChar? [first, second, third, fourth] = some c)
    (rest : List Char) :
    afterString? .plain ('\\' :: 'u' :: first :: second :: third :: fourth ::
      rest) = afterString? .plain rest := by
  have notBrace : first ≠ '\x7b' := by
    rintro rfl
    simp [codeChar?, Text.hexNumber?, Text.hexValue?] at decoded
  simp only [codeChar?, Text.hexNumber?, List.mapM_cons, List.mapM_nil,
    Option.bind_eq_bind, Option.bind_eq_some_iff] at decoded
  obtain ⟨_, ⟨_, ⟨_, firstRead, _, ⟨_, secondRead, _, ⟨_, thirdRead, _,
    ⟨_, fourthRead, -⟩, -⟩, -⟩, -⟩, -⟩, -⟩ := decoded
  simp [afterString?, StringState.next?, notBrace, firstRead, secondRead,
    thirdRead, fourthRead]

theorem mem_escapeLetters {letter c : Char} (escaped : escape? letter = some c) :
    letter ∈ escapeLetters := by
  obtain ⟨_, _, table, -⟩ := List.lookup_eq_some_iff.mp escaped
  have listed := congrArg (List.map Prod.fst) table
  rw [List.map_append, List.map_cons] at listed
  have letters : escapeLetters = _ := listed
  simp [letters]

theorem afterString?_escape {letter c : Char}
    (escaped : escape? letter = some c) (rest : List Char) :
    afterString? .plain ('\\' :: letter :: rest) = afterString? .plain rest := by
  have listed := mem_escapeLetters escaped
  have notCode : letter ≠ 'u' := by
    rintro rfl
    exact absurd listed (by decide)
  simp [afterString?, StringState.next?, notCode, listed]

theorem afterString?_plain {c : Char} {rest : List Char} (notQuote : c ≠ '"')
    (notBackslash : c ≠ '\\') (printable : ¬ (c.toNat < 0x20 ∧ c ≠ '\t')) :
    afterString? .plain (c :: rest) = afterString? .plain rest := by
  have goesOn : ¬ (c = '\n' ∨ c = '\r') := by
    rintro (rfl | rfl) <;> simp at printable
  rw [afterString?.eq_def]
  simp [StringState.next?, notQuote, notBackslash, goesOn]

theorem afterString?_of_stringBody? {text content rest : List Char}
    (read : stringBody? text = some (content, rest)) :
    afterString? .plain text = some rest := by
  induction text using stringBody?.induct generalizing content with
  | case1 => simp [stringBody?] at read
  | case2 others =>
      rw [stringBody?_end] at read
      cases read
      rw [afterString?]
  | case3 first second third fourth others _ ih =>
      rw [stringBody?_code] at read
      obtain ⟨_, found⟩ := eq_some_of_prepend? read
      simp only [prepend?, Option.bind_eq_bind, Option.bind_eq_some_iff] at read
      obtain ⟨c, decoded, -⟩ := read
      rw [afterString?_code decoded, ih found]
  | case4 letter others notCode _ ih =>
      have unfolded : stringBody? ('\\' :: letter :: others) =
          prepend? (escape? letter) (stringBody? others) := by
        rw [stringBody?.eq_def]
        simp only [Char.reduceEq, if_false, if_true]
      rw [unfolded] at read
      obtain ⟨_, found⟩ := eq_some_of_prepend? read
      simp only [prepend?, Option.bind_eq_bind, Option.bind_eq_some_iff] at read
      obtain ⟨c, escaped, -⟩ := read
      rw [afterString?_escape escaped, ih found]
  | case5 => simp [stringBody?] at read
  | case6 c others notQuote notBackslash control =>
      rw [stringBody?.eq_def] at read
      simp [notQuote, notBackslash, control] at read
  | case7 c others notQuote notBackslash printable ih =>
      rw [stringBody?_plain notQuote notBackslash printable] at read
      obtain ⟨_, found⟩ := eq_some_of_prepend? read
      rw [afterString?_plain notQuote notBackslash printable, ih found]

theorem punctuators_of_punctuator? {c : Char} {token : Token}
    (read : punctuator? c = some token) :
    punctuators.contains c = true ∧ token.lexeme = .punctuator c := by
  unfold punctuator? at read
  split at read
  case h_7 =>
    split at read
    next listed =>
      cases read
      refine ⟨?_, rfl⟩
      simp only [List.contains_cons, List.contains_nil, Bool.or_false,
        Bool.or_eq_true, beq_iff_eq] at listed
      rcases listed with rfl | rfl | rfl | rfl | rfl | rfl | rfl <;> rfl
    next => contradiction
  all_goals
    cases read
    exact ⟨rfl, rfl⟩

theorem lexeme?_of_token? {text rest : List Char} {token : Token}
    (read : token? text = some (token, rest)) :
    lexeme? text = some (token.lexeme, rest) := by
  rw [token?] at read
  split at read
  · contradiction
  next c others found =>
    rw [lexeme?, found]
    dsimp only
    split at read
    next start =>
      cases read
      rw [if_pos start]
      rfl
    next notName =>
      rw [if_neg notName]
      split at read
      next digit =>
        obtain ⟨after, number⟩ := afterNumber?_of_number? read
        rw [if_pos digit, after, number]
        rfl
      next notNumber =>
        rw [if_neg notNumber]
        split at read
        next quote =>
          rw [string?] at read
          split at read
          · contradiction
          next single =>
            obtain ⟨body, bodyRead, same⟩ := Option.map_eq_some_iff.mp read
            cases same
            rw [if_pos quote, if_neg single,
              afterString?_of_stringBody? bodyRead]
            rfl
        next notQuote =>
          rw [if_neg notQuote]
          split at read
          next point =>
            split at read
            · cases read
              rw [if_pos point]
              rfl
            · contradiction
          next notPoint =>
            rw [if_neg notPoint]
            obtain ⟨_, punctuates, same⟩ := Option.map_eq_some_iff.mp read
            cases same
            obtain ⟨listed, form⟩ := punctuators_of_punctuator? punctuates
            rw [if_pos listed, form]

/-! Single lexemes -/

theorem Spells.token {text : List Char} {token : Token}
    (read : ∀ rest, Boundary rest → token? (text ++ rest) = some (token, rest)) :
    Spells text [token.lexeme] :=
  .lexeme fun rest boundary => lexeme?_of_token? (read rest boundary)

theorem spells_name {text : String} (named : isName text = true) :
    Spells text.toList [.name text] :=
  .token fun _ => token?_name named

theorem spells_int (value : Int) : Spells (toString value).toList [.number] :=
  .token fun _ => token?_int value

theorem spells_quote (text : String) :
    Spells (Json.quote text).toList [.string] :=
  .token fun _ => token?_quote text

theorem Numeral.Regular.afterNumber? {numeral : Numeral}
    (regular : numeral.Regular) {rest : List Char} (boundary : Boundary rest) :
    afterNumber? (numeral.text ++ rest) = some rest := by
  have ends : rest.head?.all (fun c => !isNameStart c && c != '.') = true := by
    cases rest with
    | nil => rfl
    | cons c rest =>
        have stops : (isNameStart c || c == '.') = false :=
          @Boundary.head (fun c => isNameStart c || c == '.') _ _ boundary rfl
        simpa using stops
  simp only [Syntax.afterNumber?, split_append boundary, regular.split,
    List.nil_append, if_pos (And.intro regular.isWellFormed ends)]

theorem Numeral.Regular.exists_start {numeral : Numeral}
    (regular : numeral.Regular) :
    ∃ c others, numeral.text = c :: others ∧ (c.isDigit = true ∨ c = '-') := by
  have signed := regular.sign
  simp only [List.mem_cons, List.not_mem_nil, or_false] at signed
  rcases signed with unsigned | minus
  · obtain ⟨c, others, whole⟩ := List.exists_cons_of_ne_nil regular.whole.ne_nil
    have digit := regular.whole.all c (by simp [whole])
    exact ⟨c, _, by rw [text, unsigned, whole]; rfl, .inl digit⟩
  · exact ⟨'-', _, by rw [text, minus]; rfl, .inr rfl⟩

theorem spells_numeral {numeral : Numeral} (regular : numeral.Regular) :
    Spells numeral.text [.number] := by
  refine .lexeme fun rest boundary => ?_
  have read := regular.afterNumber? boundary
  obtain ⟨c, others, starts, start⟩ := regular.exists_start
  obtain ⟨notName, visible, notComment⟩ := visible_of_numberStart start
  rw [starts, List.cons_append] at read ⊢
  rw [lexeme?, unignored_cons visible notComment]
  simp only [notName, Bool.false_eq_true, if_false, if_pos start, read,
    Option.map_some]

theorem spells_float {value : Binary64} (finite : value.isFinite = true) :
    Spells value.text.toList [.number] := by
  obtain ⟨_, float, written⟩ := Binary64.exists_text finite
  rw [written]
  exact spells_numeral float.regular

end TypedGraphQL.Syntax
