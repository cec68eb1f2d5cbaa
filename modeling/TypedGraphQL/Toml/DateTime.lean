import TypedGraphQL.Text.Digits

namespace TypedGraphQL.Toml

structure Date where
  year : Nat
  month : Nat
  day : Nat
deriving DecidableEq, Repr

structure Time where
  hour : Nat
  minute : Nat
  second : Nat
  nanosecond : Nat
deriving DecidableEq, Repr

inductive Offset where
  | universal
  | minutes (ahead : Int)
deriving DecidableEq, Repr

inductive DateTime where
  | dateOnly (date : Date)
  | timeOnly (time : Time)
  | moment (date : Date) (time : Time) (offset : Option Offset)
deriving DecidableEq, Repr

def isLeapYear (year : Nat) : Bool :=
  year % 4 == 0 && (year % 100 != 0 || year % 400 == 0)

def daysInMonth (year month : Nat) : Nat :=
  if month = 2 then if isLeapYear year then 29 else 28
  else if month = 4 ∨ month = 6 ∨ month = 9 ∨ month = 11 then 30
  else 31

def Date.isValid (date : Date) : Bool :=
  1 ≤ date.month && date.month ≤ 12
    && 1 ≤ date.day && date.day ≤ daysInMonth date.year date.month

/-- A minute may end in a leap second. -/
def Time.isValid (time : Time) : Bool :=
  time.hour ≤ 23 && time.minute ≤ 59 && time.second ≤ 60

def number? (count : Nat) (text : List Char) : Option (Nat × List Char) :=
  let digits := text.take count
  if digits.length = count ∧ digits.all Char.isDigit then
    some (Text.digitsValue digits, text.drop count)
  else none

def after? (c : Char) : List Char → Option (List Char)
  | [] => none
  | first :: rest => if first = c then some rest else none

def Date.read? (text : List Char) : Option (Date × List Char) := do
  let (year, rest) ← number? 4 text
  let (month, rest) ← number? 2 (← after? '-' rest)
  let (day, rest) ← number? 2 (← after? '-' rest)
  let date : Date := ⟨year, month, day⟩
  if date.isValid then some (date, rest) else none

/-- A fraction of the second, cut after nine digits; without digits there is none. -/
def fraction (text : List Char) : Nat × List Char :=
  match text with
  | '.' :: rest =>
    let digits := rest.takeWhile Char.isDigit
    if digits.isEmpty then (0, text)
    else
      let kept := digits.take 9
      (Text.digitsValue kept * 10 ^ (9 - kept.length), rest.drop digits.length)
  | _ => (0, text)

def Time.read? (text : List Char) : Option (Time × List Char) := do
  let (hour, rest) ← number? 2 text
  let (minute, rest) ← number? 2 (← after? ':' rest)
  let (second, rest) ← number? 2 (← after? ':' rest)
  let (nanosecond, rest) := fraction rest
  let time : Time := ⟨hour, minute, second, nanosecond⟩
  if time.isValid then some (time, rest) else none

def Offset.read? (text : List Char) : Option (Offset × List Char) :=
  match text with
  | 'Z' :: rest | 'z' :: rest => some (.universal, rest)
  | '+' :: rest | '-' :: rest => do
    let (hour, rest) ← number? 2 rest
    let (minute, rest) ← number? 2 (← after? ':' rest)
    let distance : Int := hour * 60 + minute
    if hour ≤ 23 ∧ minute ≤ 59 then
      some (.minutes (if (Text.splitSign text).1 then -distance else distance), rest)
    else none
  | _ => none

def timeOfDay? : List Char → Option (Time × List Char)
  | c :: rest => if c = 'T' ∨ c = 't' ∨ c = ' ' then Time.read? rest else none
  | [] => none

namespace DateTime

def ofDate (date : Date) (text : List Char) : DateTime × List Char :=
  match timeOfDay? text with
  | none => (.dateOnly date, text)
  | some (time, rest) =>
    match Offset.read? rest with
    | some (offset, rest) => (.moment date time (some offset), rest)
    | none => (.moment date time none, rest)

def read? (text : List Char) : Option (DateTime × List Char) :=
  match Date.read? text with
  | some (date, rest) => some (ofDate date rest)
  | none => (Time.read? text).map fun (time, rest) => (.timeOnly time, rest)

end DateTime

def Date.text (date : Date) : List Char :=
  Text.paddedDigits 4 date.year ++ '-' :: Text.paddedDigits 2 date.month
    ++ '-' :: Text.paddedDigits 2 date.day

def Time.fractionText (time : Time) : List Char :=
  if time.nanosecond = 0 then []
  else '.' :: Text.withoutTrailingZeros (Text.paddedDigits 9 time.nanosecond)

def Time.text (time : Time) : List Char :=
  Text.paddedDigits 2 time.hour ++ ':' :: Text.paddedDigits 2 time.minute
    ++ ':' :: Text.paddedDigits 2 time.second ++ time.fractionText

def Offset.text : Offset → List Char
  | universal => ['Z']
  | minutes ahead =>
    (if ahead < 0 then '-' else '+') :: Text.paddedDigits 2 (ahead.natAbs / 60)
      ++ ':' :: Text.paddedDigits 2 (ahead.natAbs % 60)

namespace DateTime

def text : DateTime → String
  | dateOnly date => String.ofList date.text
  | timeOnly time => String.ofList time.text
  | moment date time offset =>
    String.ofList
      (date.text ++ 'T' :: time.text ++ (offset.map Offset.text).getD [])

def entryKey : String := "$__toml_private_datetime"

end DateTime

end TypedGraphQL.Toml
