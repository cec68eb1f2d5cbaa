import TypedGraphQL.Json.Numeral
import TypedGraphQL.Text.Digits

namespace TypedGraphQL.Json

/-- An open container with what it holds so far, last first. -/
inductive Frame where
  | items (before : List Json)
  | entries (before : List (String × Json))
  | member (before : List (String × Json)) (key : String)
deriving Repr

inductive StringPhase where
  | plain
  | escape
  | hex (high : Option Nat) (digits : List Char) (bytes : Nat)
  | lowBackslash (high : Nat)
  | lowLetter (high : Nat)
deriving DecidableEq, Repr

inductive StringRole where
  | key
  | value
deriving DecidableEq, Repr

inductive Mode where
  | value
  | firstItem
  | nextItem
  | firstKey
  | nextKey
  | colon
  | separator
  | word (rest : List Char) (value : Json)
  | string (role : StringRole) (phase : StringPhase) (before : List Char)
  | number (numeral : Numeral)
  | finished (value : Json) (trailing : Option Nat)
deriving Repr

structure Reader where
  consumed : Nat
  stack : List Frame
  mode : Mode
deriving Repr

/-- Containers nest up to one level below this. -/
def depthLimit : Nat := 128

def isSpace (c : Char) : Bool :=
  c == ' ' || c == '\n' || c == '\t' || c == '\r'

def complete (stack : List Frame) (value : Json) : List Frame × Mode :=
  match stack with
  | .items before :: rest => (.items (value :: before) :: rest, .separator)
  | .member before key :: rest =>
    (.entries ((key, value) :: before) :: rest, .separator)
  | _ => (stack, .finished value none)

def openContainer (stack : List Frame) (frame : Frame) (mode : Mode) :
    Except FaultKind (List Frame × Mode) :=
  if depthLimit ≤ stack.length + 1 then .error .nestedTooDeep
  else .ok (frame :: stack, mode)

def startValue (stack : List Frame) (c : Char) :
    Except FaultKind (List Frame × Mode) :=
  if c = 'n' then .ok (stack, .word ['u', 'l', 'l'] .null)
  else if c = 't' then .ok (stack, .word ['r', 'u', 'e'] (.bool true))
  else if c = 'f' then .ok (stack, .word ['a', 'l', 's', 'e'] (.bool false))
  else if c = '"' then .ok (stack, .string .value .plain [])
  else if c = '-' then .ok (stack, .number ⟨true, .sign⟩)
  else if c = '0' then .ok (stack, .number ⟨false, .zero⟩)
  else if c.isDigit then .ok (stack, .number ⟨false, .whole (Text.digitValue c)⟩)
  else if c = '[' then openContainer stack (.items []) .firstItem
  else if c = '{' then openContainer stack (.entries []) .firstKey
  else .error .expectedValue

def afterValue (stack : List Frame) (c : Char) :
    Except FaultKind (List Frame × Mode) :=
  match stack with
  | .items before :: rest =>
    if c = ',' then .ok (stack, .nextItem)
    else if c = ']' then .ok (complete rest (.array before.reverse))
    else .error .expectedListSeparator
  | .entries before :: rest =>
    if c = ',' then .ok (stack, .nextKey)
    else if c = '}' then .ok (complete rest (.object before.reverse))
    else .error .expectedObjectSeparator
  | _ => .error .trailingCharacters

def escaped? (c : Char) : Option Char :=
  if c = '"' ∨ c = '\\' ∨ c = '/' then some c
  else if c = 'b' then some '\x08'
  else if c = 'f' then some '\x0c'
  else if c = 'n' then some '\n'
  else if c = 'r' then some '\r'
  else if c = 't' then some '\t'
  else none

def isHighSurrogate (unit : Nat) : Bool := 0xd800 ≤ unit && unit ≤ 0xdbff

def isLowSurrogate (unit : Nat) : Bool := 0xdc00 ≤ unit && unit ≤ 0xdfff

def afterCodeUnit (high : Option Nat) (unit : Nat) :
    Except FaultKind (StringPhase × Option Char) :=
  match high with
  | none =>
    if isLowSurrogate unit then .error .loneSurrogate
    else if isHighSurrogate unit then .ok (.lowBackslash unit, none)
    else .ok (.plain, some (Char.ofNat unit))
  | some high =>
    if isLowSurrogate unit then
      .ok (.plain,
        some (Char.ofNat (0x10000 + (high - 0xd800) * 0x400 + (unit - 0xdc00))))
    else .error .loneSurrogate

def inString (stack : List Frame) (role : StringRole) (phase : StringPhase)
    (before : List Char) (consumed : Nat) (c : Char) :
    Except Fault (List Frame × Mode) :=
  let here (kind : FaultKind) : Fault := ⟨kind, consumed + 1⟩
  let stay (phase : StringPhase) (before : List Char) :
      Except Fault (List Frame × Mode) :=
    .ok (stack, .string role phase before)
  match phase with
  | .plain =>
    if c = '"' then
      let text := String.ofList before.reverse
      match role, stack with
      | .key, .entries entries :: rest => .ok (.member entries text :: rest, .colon)
      | _, _ => .ok (complete stack (.string text))
    else if c = '\\' then stay .escape before
    else if c.toNat < 0x20 then .error (here .controlCharacter)
    else stay .plain (c :: before)
  | .escape =>
    if c = 'u' then stay (.hex none [] 0) before
    else
      match escaped? c with
      | some character => stay .plain (character :: before)
      | none => .error (here .invalidEscape)
  | .hex high digits bytes =>
    if bytes + c.utf8Size < 4 then
      stay (.hex high (c :: digits) (bytes + c.utf8Size)) before
    else
      match Text.hexNumber? (c :: digits).reverse with
      | none => .error ⟨.invalidEscape, consumed - bytes + 4⟩
      | some unit =>
        match afterCodeUnit high unit with
        | .error kind => .error (here kind)
        | .ok (phase, character) => stay phase (character.toList ++ before)
  | .lowBackslash high =>
    if c = '\\' then stay (.lowLetter high) before
    else .error (here .endOfHexEscape)
  | .lowLetter high =>
    if c = 'u' then stay (.hex (some high) [] 0) before
    else .error (here .endOfHexEscape)

def significant (stack : List Frame) (mode : Mode) (c : Char) :
    Except FaultKind (List Frame × Mode) :=
  match mode, stack with
  | .firstItem, .items _ :: rest =>
    if c = ']' then .ok (complete rest (.array [])) else startValue stack c
  | .nextItem, _ =>
    if c = ']' then .error .trailingComma else startValue stack c
  | .firstKey, .entries _ :: rest =>
    if c = '}' then .ok (complete rest (.object []))
    else if c = '"' then .ok (stack, .string .key .plain [])
    else .error .expectedKey
  | .nextKey, _ =>
    if c = '"' then .ok (stack, .string .key .plain [])
    else if c = '}' then .error .trailingComma
    else .error .expectedKey
  | .colon, _ =>
    if c = ':' then .ok (stack, .value) else .error .expectedColon
  | .separator, _ => afterValue stack c
  | _, _ => startValue stack c

def between (stack : List Frame) (mode : Mode) (consumed : Nat) (c : Char) :
    Except Fault (List Frame × Mode) :=
  if isSpace c then .ok (stack, mode)
  else
    match mode with
    | .finished value trailing =>
      .ok (stack, .finished value (some (trailing.getD (consumed + 1))))
    | _ =>
      match significant stack mode c with
      | .ok next => .ok next
      | .error kind => .error ⟨kind, consumed + 1⟩

def advance (reader : Reader) (c : Char) : Except Fault (List Frame × Mode) :=
  let here (kind : FaultKind) : Fault := ⟨kind, reader.consumed + 1⟩
  match reader.mode with
  | .word rest value =>
    match rest with
    | [] => .error (here .expectedWord)
    | [last] =>
      if c = last then .ok (complete reader.stack value)
      else .error (here .expectedWord)
    | next :: more =>
      if c = next then .ok (reader.stack, .word more value)
      else .error (here .expectedWord)
  | .string role phase before =>
    inString reader.stack role phase before reader.consumed c
  | .number numeral =>
    match numeral.phase.next? c with
    | .error kind => .error (here kind)
    | .ok (some phase) => .ok (reader.stack, .number ⟨numeral.negative, phase⟩)
    | .ok none =>
      match numeral.value with
      | .error kind => .error ⟨kind, reader.consumed⟩
      | .ok found =>
        let (stack, mode) := complete reader.stack (.number found)
        between stack mode reader.consumed c
  | mode => between reader.stack mode reader.consumed c

def Reader.step (reader : Reader) (c : Char) : Except Fault Reader :=
  (advance reader c).map fun (stack, mode) =>
    ⟨reader.consumed + c.utf8Size, stack, mode⟩

def atEnd (stack : List Frame) (mode : Mode) :
    Except FaultKind (Json × Option Nat) :=
  match mode with
  | .finished value trailing => .ok (value, trailing)
  | .firstItem => .error .endInList
  | .firstKey | .colon => .error .endInObject
  | .string .. => .error .endInString
  | .separator =>
    match stack with
    | .items _ :: _ => .error .endInList
    | _ => .error .endInObject
  | _ => .error .endInValue

def Reader.finish (reader : Reader) : Except FaultKind (Json × Option Nat) :=
  match reader.mode with
  | .number numeral => do
    let (stack, mode) := complete reader.stack (.number (← numeral.value))
    atEnd stack mode
  | mode => atEnd reader.stack mode

def Reader.start : Reader := ⟨0, [], .value⟩

/-- The value that the text starts with, and the fault of what follows it, if any. -/
def readPrefix (text : String) : Except Fault (Json × Option Fault) := do
  let reader ← text.toList.foldlM Reader.step Reader.start
  match reader.finish with
  | .ok (value, trailing) => .ok (value, trailing.map (⟨.trailingCharacters, ·⟩))
  | .error kind => .error ⟨kind, reader.consumed⟩

def read (text : String) : Except Fault Json := do
  match ← readPrefix text with
  | (value, none) => .ok value
  | (_, some fault) => .error fault

end TypedGraphQL.Json
