import IssueDesk.Toml.Moment
import IssueDesk.Toml.Text
import IssueDesk.Toml.Value

/-! The statements of a settings file, one to a line as far as values go: the header of a table, the
header of one more table in an array, or the assignment of a value to a key. Blanks, comments and
empty lines may stand between statements and also between the items of an array; a table between
braces stands on one line. Arrays and braces are nested at most `nestingLimit` deep, and a path has
at most `nestingLimit` keys. -/

namespace IssueDesk.Toml

def nestingLimit : Nat := 79

/-- What follows blanks, line ends and comments. A comment ends before a line end. -/
def dropFiller (inComment : Bool) : List Char → List Char
  | [] => []
  | '\n' :: rest => dropFiller false rest
  | '\r' :: '\n' :: rest => dropFiller false rest
  | c :: rest =>
      if inComment then
        if isPlain c then dropFiller true rest else c :: rest
      else if c = '#' then dropFiller true rest
      else if isGap c then dropFiller false rest
      else c :: rest

def isBareKeyChar (c : Char) : Bool := c.isAlphanum || c == '-' || c == '_'

def key? : List Char → Option (String × List Char)
  | '"' :: rest => (basicText rest).map fun (key, rest) => (String.ofList key, rest)
  | '\x27' :: rest => (literalText rest).map fun (key, rest) => (String.ofList key, rest)
  | cs =>
      match cs.takeWhile isBareKeyChar with
      | [] => none
      | key => some (String.ofList key, cs.dropWhile isBareKeyChar)

/-- Keys with dots between them, blanks around each. -/
def keyPath? : Nat → List Char → Option (List String × List Char)
  | 0, _ => none
  | limit + 1, cs => do
      let (key, rest) ← key? (dropGap cs)
      match dropGap rest with
      | '.' :: rest => do
          let (keys, rest) ← keyPath? limit rest
          return (key :: keys, rest)
      | rest => return ([key], rest)

def path? (cs : List Char) : Option (List String × List Char) := keyPath? nestingLimit cs

def word? (value : Value) : List Char → List Char → Option (Value × List Char)
  | [], cs => some (value, cs)
  | _ :: _, [] => none
  | letter :: word, c :: cs => if letter = c then word? value word cs else none

/-- A value that holds no others. -/
def simpleValue? (cs : List Char) : Option (Value × List Char) :=
  match cs with
  | '"' :: _ | '\x27' :: _ => (text? cs).map fun (text, rest) => (.text (String.ofList text), rest)
  | 't' :: _ => word? (.boolean true) ['t', 'r', 'u', 'e'] cs
  | 'f' :: _ => word? (.boolean false) ['f', 'a', 'l', 's', 'e'] cs
  | _ =>
      match moment? cs with
      | some rest => some (.moment, rest)
      | none => (number? cs).map fun (number, rest) => (.number number, rest)

def assignmentTo (path : List String) (value : Value) : Option Assignment :=
  path.getLast?.map fun key => ⟨path.dropLast, key, value⟩

mutual
/-- A value. The fuel bounds the number of values and separators, the depth what may still be nested
in it. -/
def value? : Nat → Nat → List Char → Option (Value × List Char)
  | 0, _, _ => none
  | fuel + 1, depth, cs =>
      match cs, depth with
      | '[' :: rest, depth + 1 => do
          let (items, rest) ← items? fuel depth rest
          return (.array items, rest)
      | '\x7b' :: rest, depth + 1 =>
          match dropGap rest with
          | '\x7d' :: rest => some (.table .closed [], rest)
          | rest => do
              let (assignments, rest) ← assignments? fuel depth rest
              let entries ← Entries.ofAssignments assignments
              return (.table .closed entries, rest)
      | '[' :: _, 0 => none
      | '\x7b' :: _, 0 => none
      | cs, _ => simpleValue? cs

/-- The items of an array, up to its end. A comma may stand behind the last. -/
def items? : Nat → Nat → List Char → Option (List Value × List Char)
  | 0, _, _ => none
  | fuel + 1, depth, cs =>
      match dropFiller false cs with
      | ']' :: rest => some ([], rest)
      | cs => do
          let (item, rest) ← value? fuel depth cs
          match dropFiller false rest with
          | ']' :: rest => return ([item], rest)
          | ',' :: rest => do
              let (items, rest) ← items? fuel depth rest
              return (item :: items, rest)
          | _ => none

/-- A path of keys and the value assigned to it. -/
def assignment? : Nat → Nat → List Char → Option (Assignment × List Char)
  | 0, _, _ => none
  | fuel + 1, depth, cs => do
      let (path, rest) ← path? cs
      match rest with
      | '=' :: rest => do
          let (value, rest) ← value? fuel depth (dropGap rest)
          let assignment ← assignmentTo path value
          return (assignment, rest)
      | _ => none

/-- The assignments between braces, up to the closing one. -/
def assignments? : Nat → Nat → List Char → Option (List Assignment × List Char)
  | 0, _, _ => none
  | fuel + 1, depth, cs => do
      let (assignment, rest) ← assignment? fuel depth cs
      match dropGap rest with
      | '\x7d' :: rest => return ([assignment], rest)
      | ',' :: rest => do
          let (assignments, rest) ← assignments? fuel depth rest
          return (assignment :: assignments, rest)
      | _ => none
end

inductive Statement where
  | header (path : List String)
  | item (path : List String)
  | assignment (assignment : Assignment)

def statement? (fuel : Nat) : List Char → Option (Statement × List Char)
  | '[' :: '[' :: rest => do
      let (path, rest) ← path? rest
      match rest with
      | ']' :: ']' :: rest => return (.item path, rest)
      | _ => none
  | '[' :: rest => do
      let (path, rest) ← path? rest
      match rest with
      | ']' :: rest => return (.header path, rest)
      | _ => none
  | cs => (assignment? fuel nestingLimit cs).map fun (assignment, rest) =>
      (.assignment assignment, rest)

/-- What follows the end of a line on which nothing but a comment is left. -/
def endOfLine? (cs : List Char) : Option (List Char) :=
  let rest := match dropGap cs with
    | '#' :: rest => rest.dropWhile isPlain
    | rest => rest
  match rest with
  | [] => some []
  | rest => lineEnd? rest

def statementsFor : Nat → List Char → Option (List Statement)
  | 0, _ => none
  | fuel + 1, cs =>
      match dropFiller false cs with
      | [] => some []
      | cs => do
          let (statement, rest) ← statement? (2 * cs.length + 2) cs
          let rest ← endOfLine? rest
          let statements ← statementsFor fuel rest
          return statement :: statements

/-- A byte order mark at the start counts for nothing. -/
def withoutMark : List Char → List Char
  | '\ufeff' :: rest => rest
  | cs => cs

/-- The statements of a text, in order. Each takes a character at least. -/
def statements? (text : String) : Option (List Statement) :=
  let cs := withoutMark text.toList
  statementsFor (cs.length + 1) cs

end IssueDesk.Toml
