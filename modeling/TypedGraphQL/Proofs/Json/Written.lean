import TypedGraphQL.Json.Printer
import TypedGraphQL.Json.Reader

namespace TypedGraphQL.Json

def Spaces (text : List Char) : Prop :=
  ∀ c ∈ text, isSpace c = true

inductive CharWritten : Char → List Char → Prop where
  | plain {c : Char} (notQuote : c ≠ '"') (notBackslash : c ≠ '\\')
      (printable : ¬ c.toNat < 0x20) : CharWritten c [c]
  | escape {c letter : Char} (escapes : escaped? letter = some c) :
      CharWritten c ['\\', letter]
  | code {c : Char} {digits : List Char} (four : digits.length = 4)
      (codes : Text.hexNumber? digits = some c.toNat) :
      CharWritten c ('\\' :: 'u' :: digits)
  | surrogates {c : Char} {high low : List Char} {highUnit lowUnit : Nat}
      (fourHigh : high.length = 4) (fourLow : low.length = 4)
      (highCodes : Text.hexNumber? high = some highUnit)
      (lowCodes : Text.hexNumber? low = some lowUnit)
      (isHigh : isHighSurrogate highUnit = true)
      (isLow : isLowSurrogate lowUnit = true)
      (codes : c.toNat =
        0x10000 + (highUnit - 0xd800) * 0x400 + (lowUnit - 0xdc00)) :
      CharWritten c ('\\' :: 'u' :: (high ++ '\\' :: 'u' :: low))

inductive ContentWritten : List Char → List Char → Prop where
  | nil : ContentWritten [] []
  | cons {c : Char} {content written rest : List Char}
      (first : CharWritten c written) (others : ContentWritten content rest) :
      ContentWritten (c :: content) (written ++ rest)

inductive StringWritten (text : String) : List Char → Prop where
  | quoted {written : List Char} (content : ContentWritten text.toList written) :
      StringWritten text ('"' :: (written ++ ['"']))

mutual
inductive Written : Json → List Char → Prop where
  | null : Written .null ['n', 'u', 'l', 'l']
  | true : Written (.bool true) ['t', 'r', 'u', 'e']
  | false : Written (.bool false) ['f', 'a', 'l', 's', 'e']
  | string {text : String} {written : List Char}
      (quoted : StringWritten text written) : Written (.string text) written
  | emptyArray {inside : List Char} (spaces : Spaces inside) :
      Written (.array []) ('[' :: (inside ++ [']']))
  | array {items : List Json} {text : List Char}
      (written : ItemsWritten items text) :
      Written (.array items) ('[' :: (text ++ [']']))
  | emptyObject {inside : List Char} (spaces : Spaces inside) :
      Written (.object []) ('{' :: (inside ++ ['}']))
  | object {entries : List (String × Json)} {text : List Char}
      (written : EntriesWritten entries text) :
      Written (.object entries) ('{' :: (text ++ ['}']))

inductive ItemsWritten : List Json → List Char → Prop where
  | last {item : Json} {before text after : List Char}
      (spacesBefore : Spaces before) (written : Written item text)
      (spacesAfter : Spaces after) :
      ItemsWritten [item] (before ++ (text ++ after))
  | cons {item : Json} {items : List Json} {before text after rest : List Char}
      (spacesBefore : Spaces before) (written : Written item text)
      (spacesAfter : Spaces after) (restWritten : ItemsWritten items rest) :
      ItemsWritten (item :: items) (before ++ (text ++ (after ++ ',' :: rest)))

inductive EntryWritten : String × Json → List Char → Prop where
  | entry {key : String} {value : Json}
      {before name beforeColon afterColon text after : List Char}
      (spacesBefore : Spaces before) (named : StringWritten key name)
      (spacesBeforeColon : Spaces beforeColon)
      (spacesAfterColon : Spaces afterColon) (written : Written value text)
      (spacesAfter : Spaces after) :
      EntryWritten (key, value) (before ++ (name ++
        (beforeColon ++ ':' :: (afterColon ++ (text ++ after)))))

inductive EntriesWritten : List (String × Json) → List Char → Prop where
  | last {entry : String × Json} {text : List Char}
      (written : EntryWritten entry text) : EntriesWritten [entry] text
  | cons {entry : String × Json} {entries : List (String × Json)}
      {text rest : List Char} (written : EntryWritten entry text)
      (restWritten : EntriesWritten entries rest) :
      EntriesWritten (entry :: entries) (text ++ ',' :: rest)
end

mutual
def depth : Json → Nat
  | null | bool _ | number _ | string _ => 0
  | array items => itemsDepth items + 1
  | object entries => entriesDepth entries + 1

def itemsDepth : List Json → Nat
  | [] => 0
  | item :: rest => max item.depth (itemsDepth rest)

def entriesDepth : List (String × Json) → Nat
  | [] => 0
  | (_, value) :: rest => max value.depth (entriesDepth rest)
end

/-! Runs of the reader -/

/-- A stack of open containers, and what is expected next. -/
abbrev Place := List Frame × Mode

/-- The text takes the reader from one place to another, wherever it stands. -/
def Reads (text : List Char) (start finish : Place) : Prop :=
  ∀ consumed, ∃ after,
    text.foldlM Reader.step ⟨consumed, start.1, start.2⟩ =
      .ok ⟨after, finish.1, finish.2⟩

theorem Reads.nil {place : Place} : Reads [] place place :=
  fun consumed => ⟨consumed, rfl⟩

theorem Reads.append {first second : List Char} {start middle finish : Place}
    (firstReads : Reads first start middle)
    (secondReads : Reads second middle finish) :
    Reads (first ++ second) start finish := by
  intro consumed
  obtain ⟨between, firstRun⟩ := firstReads consumed
  obtain ⟨after, secondRun⟩ := secondReads between
  refine ⟨after, ?_⟩
  rw [List.foldlM_append, firstRun]
  exact secondRun

theorem Reads.cons {c : Char} {text : List Char} {start middle finish : Place}
    (advances : ∀ consumed,
      advance ⟨consumed, start.1, start.2⟩ c = .ok middle)
    (reads : Reads text middle finish) : Reads (c :: text) start finish := by
  intro consumed
  obtain ⟨after, run⟩ := reads (consumed + c.utf8Size)
  refine ⟨after, ?_⟩
  rw [List.foldlM_cons, Reader.step, advances]
  exact run

theorem Reads.single {c : Char} {start finish : Place}
    (advances : ∀ consumed,
      advance ⟨consumed, start.1, start.2⟩ c = .ok finish) :
    Reads [c] start finish :=
  .cons advances .nil

section Tokens

variable {stack : List Frame} {mode : Mode} {c : Char} {place : Place}

def Mode.isInToken : Mode → Bool
  | word .. | string .. | number _ => true
  | _ => false

theorem advance_between (outside : mode.isInToken = false) (consumed : Nat) :
    advance ⟨consumed, stack, mode⟩ c = between stack mode consumed c := by
  cases mode <;> first | rfl | contradiction

theorem reads_spaces (outside : mode.isInToken = false) {text : List Char}
    (spaces : Spaces text) : Reads text (stack, mode) (stack, mode) := by
  induction text with
  | nil => exact .nil
  | cons c text ih =>
      have space : isSpace c = true := spaces c (by simp)
      refine .cons (fun consumed => ?_) (ih fun other member =>
        spaces other (by simp [member]))
      rw [advance_between outside]
      simp only [between, space, if_true]

def Mode.awaitsValue : Mode → Bool
  | value | firstItem | nextItem => true
  | _ => false

theorem Mode.isInToken_of_awaitsValue (awaits : mode.awaitsValue = true) :
    mode.isInToken = false := by
  cases mode <;> first | rfl | contradiction

theorem advance_value (awaits : mode.awaitsValue = true)
    (visible : isSpace c = false) (notClosing : c ≠ ']')
    (starts : startValue stack c = .ok place) (consumed : Nat) :
    advance ⟨consumed, stack, mode⟩ c = .ok place := by
  have significantly : significant stack mode c = startValue stack c := by
    cases mode with
    | value => rfl
    | firstItem =>
        rw [significant.eq_def]
        split <;> simp_all
    | nextItem => simp [significant, notClosing]
    | _ => contradiction
  rw [advance_between (Mode.isInToken_of_awaitsValue awaits)]
  simp only [between, visible, significantly, starts]
  cases mode <;> first | rfl | contradiction

theorem reads_word {value : Json} {word : List Char} (nonempty : word ≠ []) :
    Reads word (stack, .word word value) (complete stack value) := by
  induction word with
  | nil => contradiction
  | cons c rest ih =>
      cases rest with
      | nil => exact .single fun _ => by simp [advance]
      | cons next more =>
          refine .cons (fun _ => ?_) (ih (by simp))
          simp [advance]

/-! Strings -/

variable {role : StringRole} {before : List Char}

theorem Reads.escape {text : List Char}
    (reads : Reads text (stack, .string role .escape before) place) :
    Reads ('\\' :: text) (stack, .string role .plain before) place :=
  .cons (fun _ => by simp [advance, inString]) reads

theorem Reads.lowEscape {text : List Char} {high : Nat}
    (reads : Reads text (stack, .string role (.hex (some high) [] 0) before)
      place) :
    Reads ('\\' :: 'u' :: text)
      (stack, .string role (.lowBackslash high) before) place :=
  @Reads.cons _ _ _ (stack, .string role (.lowLetter high) before) _
    (fun _ => by simp [advance, inString]) (.cons (fun _ => rfl) reads)

theorem utf8Size_of_hexValue? {value : Nat}
    (digit : Text.hexValue? c = some value) : c.utf8Size = 1 := by
  have ascii : c.toNat ≤ 127 := by
    have bound {last : Char} (below : c ≤ last) (small : last.toNat ≤ 127) :
        c.toNat ≤ 127 :=
      Nat.le_trans (UInt32.le_iff_toNat_le.mp below) small
    unfold Text.hexValue? at digit
    split at digit
    next decimal =>
      exact Nat.le_trans (Char.isDigit_iff_toNat.mp decimal).2 (by decide)
    next =>
      split at digit
      next lower => exact bound lower.2 (by decide)
      next =>
        split at digit
        next upper => exact bound upper.2 (by decide)
        next => contradiction
  exact Char.utf8Size_eq_one_iff.mpr (UInt32.le_iff_toNat_le.mpr ascii)

theorem Reads.hexDigit {high : Option Nat} {text digits : List Char}
    {bytes : Nat} (narrow : c.utf8Size = 1) (more : bytes + 1 < 4)
    (reads : Reads text
      (stack, .string role (.hex high (c :: digits) (bytes + 1)) before) place) :
    Reads (c :: text) (stack, .string role (.hex high digits bytes) before)
      place :=
  .cons (fun _ => by simp [advance, inString, narrow, more]) reads

theorem reads_unit {high : Option Nat} {digits : List Char} {unit : Nat}
    {phase : StringPhase} {decoded : Option Char} (four : digits.length = 4)
    (codes : Text.hexNumber? digits = some unit)
    (completes : afterCodeUnit high unit = .ok (phase, decoded)) :
    Reads digits (stack, .string role (.hex high [] 0) before)
      (stack, .string role phase (decoded.toList ++ before)) := by
  obtain ⟨first, second, third, fourth, rfl⟩ : ∃ first second third fourth,
      digits = [first, second, third, fourth] := by
    match digits, four with
    | [first, second, third, fourth], _ =>
        exact ⟨first, second, third, fourth, rfl⟩
  have values := codes
  simp only [Text.hexNumber?, List.mapM_cons, List.mapM_nil,
    Option.bind_eq_bind, Option.bind_eq_some_iff] at values
  obtain ⟨_, ⟨_, firstRead, _, ⟨_, secondRead, _, ⟨_, thirdRead, _,
    ⟨_, fourthRead, -⟩, -⟩, -⟩, -⟩, -⟩ := values
  refine .hexDigit (utf8Size_of_hexValue? firstRead) (by decide)
    (.hexDigit (utf8Size_of_hexValue? secondRead) (by decide)
      (.hexDigit (utf8Size_of_hexValue? thirdRead) (by decide)
        (.single fun _ => ?_)))
  simp [advance, inString, utf8Size_of_hexValue? fourthRead, codes, completes]

theorem not_surrogate (c : Char) :
    isLowSurrogate c.toNat = false ∧ isHighSurrogate c.toNat = false := by
  have valid : c.toNat.isValidChar := c.valid
  simp only [Nat.isValidChar] at valid
  simp only [isLowSurrogate, isHighSurrogate, Bool.and_eq_false_iff,
    decide_eq_false_iff_not]
  omega

theorem reads_charWritten {written : List Char} (char : CharWritten c written) :
    Reads written (stack, .string role .plain before)
      (stack, .string role .plain (c :: before)) := by
  cases char with
  | plain notQuote notBackslash printable =>
      refine .single fun _ => ?_
      simp [advance, inString, notQuote, notBackslash, printable]
  | @escape letter escapes =>
      have notCode : letter ≠ 'u' := by
        rintro rfl
        simp [escaped?] at escapes
      refine .escape (.single fun _ => ?_)
      simp [advance, inString, notCode, escapes]
  | code four codes =>
      obtain ⟨notLow, notHigh⟩ := not_surrogate c
      have unit : afterCodeUnit none c.toNat = .ok (.plain, some c) := by
        simp [afterCodeUnit, notLow, notHigh]
      exact .escape (.cons (fun _ => rfl) (reads_unit four codes unit))
  | @surrogates high low highUnit lowUnit fourHigh fourLow highCodes lowCodes
      isHigh isLow codes =>
      have first : afterCodeUnit none highUnit =
          .ok (.lowBackslash highUnit, none) := by
        have notLow : isLowSurrogate highUnit = false := by
          simp [isLowSurrogate, isHighSurrogate] at isHigh ⊢
          omega
        simp [afterCodeUnit, notLow, isHigh]
      have second : afterCodeUnit (some highUnit) lowUnit =
          .ok (.plain, some c) := by
        simp [afterCodeUnit, isLow, ← codes]
      exact .escape (.cons (fun _ => rfl)
        ((reads_unit fourHigh highCodes first).append
          (.lowEscape (reads_unit fourLow lowCodes second))))

theorem reads_contentWritten {content written : List Char}
    (contentWritten : ContentWritten content written) :
    Reads written (stack, .string role .plain before)
      (stack, .string role .plain (content.reverse ++ before)) := by
  induction contentWritten generalizing before with
  | nil => exact .nil
  | cons first _ ih =>
      rw [List.reverse_cons, List.append_assoc]
      exact (reads_charWritten first).append ih

theorem reads_string (awaits : mode.awaitsValue = true) {text : String}
    {written : List Char} (quoted : StringWritten text written) :
    Reads written (stack, mode) (complete stack (.string text)) := by
  obtain ⟨content⟩ := quoted
  refine .cons (advance_value awaits rfl (by decide) rfl)
    ((reads_contentWritten content).append (.single fun _ => ?_))
  cases stack <;> simp [advance, inString]

def Mode.awaitsKey : Mode → Bool
  | firstKey | nextKey => true
  | _ => false

theorem Mode.isInToken_of_awaitsKey (awaits : mode.awaitsKey = true) :
    mode.isInToken = false := by
  cases mode <;> first | rfl | contradiction

theorem reads_key (awaits : mode.awaitsKey = true)
    (entries : List (String × Json)) {key : String} {written : List Char}
    (quoted : StringWritten key written) :
    Reads written (.entries entries :: stack, mode)
      (.member entries key :: stack, .colon) := by
  have opens : ∀ consumed,
      advance ⟨consumed, .entries entries :: stack, mode⟩ '"' =
        .ok (.entries entries :: stack, .string .key .plain []) := by
    intro consumed
    cases mode <;> first | rfl | contradiction
  obtain ⟨content⟩ := quoted
  refine .cons opens ((reads_contentWritten content).append
    (.single fun _ => ?_))
  simp [advance, inString]

/-! Containers -/

theorem Reads.opening {frame : Frame} {text : List Char} {inner : Mode}
    (awaits : mode.awaitsValue = true) (visible : isSpace c = false)
    (notClosing : c ≠ ']')
    (opens : startValue stack c = openContainer stack frame inner)
    (shallow : stack.length + 1 < depthLimit)
    (reads : Reads text (frame :: stack, inner) place) :
    Reads (c :: text) (stack, mode) place := by
  refine .cons (advance_value awaits visible notClosing ?_) reads
  rw [opens, openContainer, if_neg (by omega)]

end Tokens

mutual
theorem reads_written : ∀ {value : Json} {text : List Char},
    Written value text → ∀ {stack : List Frame} {mode : Mode},
      mode.awaitsValue = true → stack.length + value.depth < depthLimit →
      Reads text (stack, mode) (complete stack value)
  | _, _, .null, _, _, awaits, _ =>
      .cons (advance_value awaits rfl (by decide) rfl) (reads_word (by simp))
  | _, _, .true, _, _, awaits, _ =>
      .cons (advance_value awaits rfl (by decide) rfl) (reads_word (by simp))
  | _, _, .false, _, _, awaits, _ =>
      .cons (advance_value awaits rfl (by decide) rfl) (reads_word (by simp))
  | _, _, .string quoted, _, _, awaits, _ => reads_string awaits quoted
  | _, _, .emptyArray spaces, _, _, awaits, shallow =>
      .opening awaits rfl (by decide) rfl shallow
        ((reads_spaces rfl spaces).append (.single fun _ => rfl))
  | _, _, @Written.array items text written, stack, mode, awaits, shallow => by
      rw [depth] at shallow
      have inside := @reads_itemsWritten _ _ written [] stack .firstItem rfl
        (by omega)
      refine .opening awaits rfl (by decide) rfl (by omega)
        (inside.append (.single fun _ => ?_))
      simp [advance, between, significant, afterValue, isSpace]
  | _, _, .emptyObject spaces, _, _, awaits, shallow =>
      .opening awaits rfl (by decide) rfl shallow
        ((reads_spaces rfl spaces).append (.single fun _ => rfl))
  | _, _, @Written.object entries text written, stack, mode, awaits, shallow => by
      rw [depth] at shallow
      have inside := @reads_entriesWritten _ _ written [] stack .firstKey rfl
        (by omega)
      refine .opening awaits rfl (by decide) rfl (by omega)
        (inside.append (.single fun _ => ?_))
      simp [advance, between, significant, afterValue, isSpace]

theorem reads_itemsWritten : ∀ {items : List Json} {text : List Char},
    ItemsWritten items text → ∀ {before : List Json} {stack : List Frame}
      {mode : Mode}, mode.awaitsValue = true →
      stack.length + 1 + itemsDepth items < depthLimit →
      Reads text (.items before :: stack, mode)
        (.items (items.reverse ++ before) :: stack, .separator)
  | _, _, .last spacesBefore written spacesAfter, before, stack, mode, awaits,
      shallow => by
      rw [itemsDepth] at shallow
      have item := @reads_written _ _ written (.items before :: stack) mode awaits
        (by rw [List.length_cons]; omega)
      exact (reads_spaces (Mode.isInToken_of_awaitsValue awaits)
        spacesBefore).append (item.append (reads_spaces rfl spacesAfter))
  | _, _, @ItemsWritten.cons value _ _ _ _ _ spacesBefore written spacesAfter
      restWritten, before, stack, mode, awaits, shallow => by
      rw [itemsDepth] at shallow
      have item := @reads_written _ _ written (.items before :: stack) mode awaits
        (by rw [List.length_cons]; omega)
      have others := @reads_itemsWritten _ _ restWritten (value :: before) stack
        .nextItem rfl (by omega)
      rw [List.reverse_cons, List.append_assoc]
      exact (reads_spaces (Mode.isInToken_of_awaitsValue awaits)
        spacesBefore).append (item.append ((reads_spaces rfl spacesAfter).append
          (.cons (fun _ => rfl) others)))

theorem reads_entryWritten : ∀ {entry : String × Json} {text : List Char},
    EntryWritten entry text → ∀ {before : List (String × Json)}
      {stack : List Frame} {mode : Mode}, mode.awaitsKey = true →
      stack.length + 1 + entry.2.depth < depthLimit →
      Reads text (.entries before :: stack, mode)
        (.entries (entry :: before) :: stack, .separator)
  | _, _, @EntryWritten.entry key _ _ _ _ _ _ _ spacesBefore named
      spacesBeforeColon spacesAfterColon written spacesAfter, before, stack,
      mode, awaits, shallow => by
      have value := @reads_written _ _ written (.member before key :: stack)
        .value rfl (by rw [List.length_cons]; exact shallow)
      have given := (reads_spaces rfl spacesAfterColon).append
        (value.append (reads_spaces rfl spacesAfter))
      exact (reads_spaces (Mode.isInToken_of_awaitsKey awaits)
        spacesBefore).append ((reads_key awaits before named).append
          ((reads_spaces rfl spacesBeforeColon).append
            (.cons (fun _ => rfl) given)))

theorem reads_entriesWritten :
    ∀ {entries : List (String × Json)} {text : List Char},
    EntriesWritten entries text → ∀ {before : List (String × Json)}
      {stack : List Frame} {mode : Mode}, mode.awaitsKey = true →
      stack.length + 1 + entriesDepth entries < depthLimit →
      Reads text (.entries before :: stack, mode)
        (.entries (entries.reverse ++ before) :: stack, .separator)
  | _, _, .last written, _, _, _, awaits, shallow => by
      rw [entriesDepth] at shallow
      exact reads_entryWritten written awaits (by omega)
  | _, _, @EntriesWritten.cons entry _ _ _ written restWritten, before, stack, _,
      awaits, shallow => by
      rw [entriesDepth] at shallow
      have first := @reads_entryWritten _ _ written before stack _ awaits
        (by omega)
      have others := @reads_entriesWritten _ _ restWritten (entry :: before)
        stack .nextKey rfl (by omega)
      rw [List.reverse_cons, List.append_assoc]
      exact first.append (.cons (fun _ => rfl) others)
end

def IsText (value : Json) (text : String) : Prop :=
  ∃ before core after, Spaces before ∧ Written value core ∧ Spaces after ∧
    text.toList = before ++ (core ++ after)

/-- A text of one value that is not nested too deep is read as that value. -/
theorem readPrefix_of_isText {value : Json} {text : String}
    (isText : IsText value text) (shallow : value.depth < depthLimit) :
    readPrefix text = .ok (value, none) := by
  obtain ⟨before, core, after, spacesBefore, written, spacesAfter, same⟩ := isText
  have reads : Reads (before ++ (core ++ after)) ([], .value)
      ([], .finished value none) :=
    (reads_spaces rfl spacesBefore).append
      ((@reads_written _ _ written [] .value rfl (by simpa using shallow)).append
        (reads_spaces rfl spacesAfter))
  obtain ⟨consumed, run⟩ := reads 0
  rw [readPrefix, same, Reader.start, run]
  rfl

mutual
def NumberFree : Json → Prop
  | null | bool _ | string _ => True
  | number _ => False
  | array items => ItemsNumberFree items
  | object entries => EntriesNumberFree entries

def ItemsNumberFree : List Json → Prop
  | [] => True
  | item :: rest => item.NumberFree ∧ ItemsNumberFree rest

def EntriesNumberFree : List (String × Json) → Prop
  | [] => True
  | (_, value) :: rest => value.NumberFree ∧ EntriesNumberFree rest
end

theorem itemsNumberFree_iff {items : List Json} :
    ItemsNumberFree items ↔ ∀ item ∈ items, item.NumberFree := by
  induction items with
  | nil => simp [ItemsNumberFree]
  | cons item items ih => simp [ItemsNumberFree, ih]

theorem entriesNumberFree_iff {entries : List (String × Json)} :
    EntriesNumberFree entries ↔ ∀ entry ∈ entries, entry.2.NumberFree := by
  induction entries with
  | nil => simp [EntriesNumberFree]
  | cons entry entries ih => simp [EntriesNumberFree, ih]

theorem Spaces.nil : Spaces [] := by
  intro c member
  contradiction

theorem hexNumber?_control :
    ∀ n < 0x20, Text.hexNumber? (['0', '0'] ++ Text.hexPair n) = some n := by
  decide

theorem charWritten_escapedChar (c : Char) : CharWritten c (escapedChar c) := by
  unfold escapedChar
  iterate 7
    split
    · subst c
      exact .escape rfl
  split
  next control => exact .code rfl (hexNumber?_control c.toNat control)
  next notQuote notBackslash _ _ _ _ _ printable =>
    exact .plain notQuote notBackslash printable

theorem contentWritten_flatMap (content : List Char) :
    ContentWritten content (content.flatMap escapedChar) := by
  induction content with
  | nil => exact .nil
  | cons c content ih => exact .cons (charWritten_escapedChar c) ih

theorem stringWritten_quote (text : String) :
    StringWritten text (quote text).toList := by
  rw [quote, String.toList_ofList]
  exact .quoted (contentWritten_flatMap text.toList)

theorem entryWritten_text {key : String} {value : Json}
    (written : Written value value.text.toList) :
    EntryWritten (key, value) (quote key ++ ":" ++ value.text).toList := by
  have entry := EntryWritten.entry .nil (stringWritten_quote key) .nil .nil
    written .nil
  simpa using entry

mutual
theorem written_text : ∀ value : Json, value.NumberFree →
    Written value value.text.toList
  | null, _ => .null
  | bool true, _ => .true
  | bool false, _ => .false
  | string text, _ => .string (stringWritten_quote text)
  | array [], _ => .emptyArray .nil
  | array (item :: rest), free => by
      have items := itemsWritten_texts (item :: rest) free (by simp)
      rw [text, String.toList_append, String.toList_append]
      exact .array items
  | object [], _ => .emptyObject .nil
  | object (entry :: rest), free => by
      have entries := entriesWritten_texts (entry :: rest) free (by simp)
      rw [text, String.toList_append, String.toList_append]
      exact .object entries

theorem itemsWritten_texts : ∀ items : List Json,
    ItemsNumberFree items → items ≠ [] →
    ItemsWritten items (",".intercalate (itemTexts items)).toList
  | [], _, nonempty => absurd rfl nonempty
  | [item], free, _ => by
      have last := ItemsWritten.last .nil (written_text item free.1) .nil
      simpa [itemTexts] using last
  | item :: next :: rest, free, _ => by
      have first := written_text item free.1
      have others := itemsWritten_texts (next :: rest) free.2 (by simp)
      have items := ItemsWritten.cons .nil first .nil others
      simpa [itemTexts, String.intercalate_cons_cons] using items

theorem entriesWritten_texts : ∀ entries : List (String × Json),
    EntriesNumberFree entries → entries ≠ [] →
    EntriesWritten entries (",".intercalate (entryTexts entries)).toList
  | [], _, nonempty => absurd rfl nonempty
  | [(key, value)], free, _ => by
      have last := EntriesWritten.last
        (@entryWritten_text key _ (written_text value free.1))
      simpa [entryTexts] using last
  | (key, value) :: next :: rest, free, _ => by
      have first := @entryWritten_text key _ (written_text value free.1)
      have others := entriesWritten_texts (next :: rest) free.2 (by simp)
      have entries := EntriesWritten.cons first others
      simpa [entryTexts, String.intercalate_cons_cons] using entries
end

theorem isText_text {value : Json} (free : value.NumberFree) :
    IsText value value.text :=
  ⟨[], _, [], .nil, written_text value free, .nil, by simp⟩

end TypedGraphQL.Json
