import TypedGraphQL.Text.Alphanumeric
import TypedGraphQL.Text.LetterCase

namespace TypedGraphQL.Text

/-!
Names cut into words and put together again.  A word ends at a character that
is neither letter nor digit, where an upper-case letter follows a lower-case
one, and before the last of several upper-case letters that a lower-case one
follows.
-/

inductive LetterMode where
  | unset
  | lower
  | upper
deriving DecidableEq, Repr

namespace LetterMode

def after (mode : LetterMode) (c : Char) : LetterMode :=
  if isLowercase c then .lower
  else if isUppercase c then .upper
  else mode

end LetterMode

def piecesAfter (current : List Char) : List Char → List (List Char)
  | [] => if current.isEmpty then [] else [current.reverse]
  | c :: rest =>
    if isAlphanumeric c then piecesAfter (c :: current) rest
    else if current.isEmpty then piecesAfter [] rest
    else current.reverse :: piecesAfter [] rest

def pieces (name : List Char) : List (List Char) :=
  piecesAfter [] name

/-- Cuts one piece; `current` is the word so far, reversed. -/
def wordsOfPiece (mode : LetterMode) (current : List Char) :
    List Char → List (List Char)
  | [] => []
  | [c] => [(c :: current).reverse]
  | c :: next :: rest =>
    if mode.after c = .lower ∧ isUppercase next then
      (c :: current).reverse :: wordsOfPiece .unset [] (next :: rest)
    else if mode = .upper ∧ isUppercase c ∧ isLowercase next then
      current.reverse :: wordsOfPiece .unset [c] (next :: rest)
    else
      wordsOfPiece (mode.after c) (c :: current) (next :: rest)

def words (name : List Char) : List (List Char) :=
  (pieces name).flatMap (wordsOfPiece .unset [])

/-- A capital sigma that ends a word takes its final form. -/
def lowerWord : List Char → List Char
  | [] => []
  | [c] => if c = 'Σ' then ['ς'] else toLowercase c
  | c :: rest => toLowercase c ++ lowerWord rest

def capitalWord : List Char → List Char
  | [] => []
  | c :: rest => toUppercase c ++ lowerWord rest

def snakeCase (name : List Char) : List Char :=
  ['_'].intercalate ((words name).map lowerWord)

def camelCase (name : List Char) : List Char :=
  (words name).flatMap capitalWord

end TypedGraphQL.Text
