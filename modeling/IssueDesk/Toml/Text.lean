import IssueDesk.Json.Document

/-! Texts in a settings file. A text stands between double quotes with escapes or between single
quotes without, and either kind also between three quotes over several lines. A text over several
lines may hold one or two of its own quotes in a row, also right before the end, and a line end in
it counts as a line feed however it is written; the first line end after the opening quotes is not
part of it. A reader gets the characters after the opening quotes and returns the text and what
follows. -/

namespace IssueDesk.Toml

/-- A blank within a line. -/
def isGap (c : Char) : Bool := c == ' ' || c == '\t'

def dropGap (cs : List Char) : List Char := cs.dropWhile isGap

/-- A character that stands for itself in texts and comments: the tab, and all but the controls. -/
def isPlain (c : Char) : Bool := c == '\t' || (0x20 ≤ c.toNat && c.toNat != 0x7F)

/-- What follows the line end that comes first. -/
def lineEnd? : List Char → Option (List Char)
  | '\n' :: rest => some rest
  | '\r' :: '\n' :: rest => some rest
  | _ => none

def prepend (cs : List Char) (read : Option (List Char × List Char)) :
    Option (List Char × List Char) :=
  read.map fun (text, rest) => (cs ++ text, rest)

def simpleEscape? (c : Char) : Option Char :=
  match c with
  | 'b' => some '\x08'
  | 't' => some '\t'
  | 'n' => some '\n'
  | 'f' => some '\x0c'
  | 'r' => some '\r'
  | '"' => some '"'
  | '\\' => some '\\'
  | _ => none

/-- The character with a code in hexadecimal digits. A surrogate is no character. -/
def codedChar? (digits : List Char) : Option Char := do
  let values ← digits.mapM Json.hexValue?
  let code := values.foldl (fun code value => code * 16 + value) 0
  if code.isValidChar then some (Char.ofNat code) else none

/-- A text between double quotes, on one line. -/
def basicText : List Char → Option (List Char × List Char)
  | [] => none
  | '"' :: rest => some ([], rest)
  | '\\' :: 'u' :: a :: b :: c :: d :: rest => do
      let char ← codedChar? [a, b, c, d]
      prepend [char] (basicText rest)
  | '\\' :: 'U' :: a :: b :: c :: d :: e :: f :: g :: h :: rest => do
      let char ← codedChar? [a, b, c, d, e, f, g, h]
      prepend [char] (basicText rest)
  | '\\' :: c :: rest => do
      let char ← simpleEscape? c
      prepend [char] (basicText rest)
  | c :: rest => if isPlain c then prepend [c] (basicText rest) else none

/-- A text between single quotes, on one line. -/
def literalText : List Char → Option (List Char × List Char)
  | [] => none
  | '\x27' :: rest => some ([], rest)
  | c :: rest => if isPlain c then prepend [c] (literalText rest) else none

/-- After three closing quotes: up to two more of them still belong to the text. -/
def closingQuotes (quote : Char) : List Char → List Char × List Char
  | a :: b :: rest =>
      if a = quote then
        if b = quote then ([a, b], rest) else ([a], b :: rest)
      else ([], a :: b :: rest)
  | [a] => if a = quote then ([a], []) else ([], [a])
  | [] => ([], [])

/-- A line ends after nothing but blanks. -/
def endsLine (cs : List Char) : Bool := (lineEnd? (dropGap cs)).isSome

/-- A text between three double quotes. A backslash at the end of a line takes away that line end
and all blanks and line ends after it, which is what `skipping` says. -/
def basicLines (skipping : Bool) : List Char → Option (List Char × List Char)
  | [] => none
  | '"' :: '"' :: '"' :: rest => some (closingQuotes '"' rest)
  | '\n' :: rest =>
      if skipping then basicLines true rest else prepend ['\n'] (basicLines false rest)
  | '\r' :: '\n' :: rest =>
      if skipping then basicLines true rest else prepend ['\n'] (basicLines false rest)
  | '\\' :: 'u' :: a :: b :: c :: d :: rest => do
      let char ← codedChar? [a, b, c, d]
      prepend [char] (basicLines false rest)
  | '\\' :: 'U' :: a :: b :: c :: d :: e :: f :: g :: h :: rest => do
      let char ← codedChar? [a, b, c, d, e, f, g, h]
      prepend [char] (basicLines false rest)
  | '\\' :: c :: rest =>
      match simpleEscape? c with
      | some char => prepend [char] (basicLines false rest)
      | none => if endsLine (c :: rest) then basicLines true (c :: rest) else none
  | c :: rest =>
      if skipping && isGap c then basicLines true rest
      else if isPlain c then prepend [c] (basicLines false rest)
      else none

/-- A text between three single quotes. -/
def literalLines : List Char → Option (List Char × List Char)
  | [] => none
  | '\x27' :: '\x27' :: '\x27' :: rest => some (closingQuotes '\x27' rest)
  | '\n' :: rest => prepend ['\n'] (literalLines rest)
  | '\r' :: '\n' :: rest => prepend ['\n'] (literalLines rest)
  | c :: rest => if isPlain c then prepend [c] (literalLines rest) else none

def withoutFirstLineEnd (cs : List Char) : List Char := (lineEnd? cs).getD cs

/-- A text from its opening quotes on, if the characters begin with a quote. -/
def text? : List Char → Option (List Char × List Char)
  | '"' :: '"' :: '"' :: rest => basicLines false (withoutFirstLineEnd rest)
  | '"' :: rest => basicText rest
  | '\x27' :: '\x27' :: '\x27' :: rest => literalLines (withoutFirstLineEnd rest)
  | '\x27' :: rest => literalText rest
  | _ => none

end IssueDesk.Toml
