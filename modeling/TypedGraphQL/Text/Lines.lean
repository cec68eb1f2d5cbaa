namespace TypedGraphQL.Text

/-- `current` is the line read so far, last character first. -/
def endedLine (current : List Char) : List Char :=
  match current with
  | '\r' :: before => before.reverse
  | _ => current.reverse

def linesAfter (current : List Char) : List Char → List (List Char)
  | [] => if current.isEmpty then [] else [current.reverse]
  | c :: rest =>
    if c = '\n' then endedLine current :: linesAfter [] rest
    else linesAfter (c :: current) rest

def lines (text : List Char) : List (List Char) :=
  linesAfter [] text

def joinLines (lines : List String) : String :=
  "\n".intercalate lines

def joinParagraphs (paragraphs : List String) : String :=
  "\n\n".intercalate paragraphs

def indent (margin text : String) : String :=
  joinLines ((lines text.toList).map fun line =>
    if line.isEmpty then "" else margin ++ String.ofList line)

def isBlank (c : Char) : Bool :=
  c == ' ' || ('\t' ≤ c && c ≤ '\r') || c == '\u0085' || c == '\u00a0' ||
    c == '\u1680' || ('\u2000' ≤ c && c ≤ '\u200a') || c == '\u2028' ||
    c == '\u2029' || c == '\u202f' || c == '\u205f' || c == '\u3000'

def trimStart (text : List Char) : List Char :=
  text.dropWhile isBlank

def trimEnd (text : List Char) : List Char :=
  (text.reverse.dropWhile isBlank).reverse

def trim (text : List Char) : List Char :=
  trimEnd (trimStart text)

end TypedGraphQL.Text
