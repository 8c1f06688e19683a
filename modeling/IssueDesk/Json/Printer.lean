import IssueDesk.Decimal.Binary64
import IssueDesk.Json.Value

/-! JSON text. The spread form puts every item and member on a line of its own, two spaces deeper
than what holds it; the compact form has no white space. Only the quote, the backslash and the
controls are escaped. -/

namespace IssueDesk.Json

def hexPadded (n : Nat) : List Char :=
  let digits := Nat.toDigits 16 n
  List.replicate (4 - digits.length) '0' ++ digits

def escapeChar (c : Char) : List Char :=
  match c with
  | '"' => ['\\', '"']
  | '\\' => ['\\', '\\']
  | '\x08' => ['\\', 'b']
  | '\x0c' => ['\\', 'f']
  | '\n' => ['\\', 'n']
  | '\r' => ['\\', 'r']
  | '\t' => ['\\', 't']
  | c => if c.toNat < 0x20 then ['\\', 'u'] ++ hexPadded c.toNat else [c]

def textForm (s : String) : String :=
  String.ofList ('"' :: s.toList.flatMap escapeChar ++ ['"'])

def scalarForm : Json → String
  | null => "null"
  | boolean true => "true"
  | boolean false => "false"
  | integer n => toString n
  | real x => Decimal.render x
  | text s => textForm s
  | array _ => "[]"
  | object _ => "\x7b\x7d"

def newline (depth : Nat) : String :=
  String.ofList ('\n' :: List.replicate (2 * depth) ' ')

mutual
def spread (depth : Nat) : Json → String
  | array (item :: rest) =>
      "[" ++ newline (depth + 1) ++ spread (depth + 1) item ++ spreadItems depth rest ++
        newline depth ++ "]"
  | object ((key, value) :: rest) =>
      "\x7b" ++ newline (depth + 1) ++ textForm key ++ ": " ++ spread (depth + 1) value ++
        spreadMembers depth rest ++ newline depth ++ "\x7d"
  | value => scalarForm value

def spreadItems (depth : Nat) : List Json → String
  | [] => ""
  | item :: rest =>
      "," ++ newline (depth + 1) ++ spread (depth + 1) item ++ spreadItems depth rest

def spreadMembers (depth : Nat) : List (String × Json) → String
  | [] => ""
  | (key, value) :: rest =>
      "," ++ newline (depth + 1) ++ textForm key ++ ": " ++ spread (depth + 1) value ++
        spreadMembers depth rest
end

/-- The value on several lines. -/
def pretty (value : Json) : String := spread 0 value

mutual
/-- The value on one line. -/
def compact : Json → String
  | array (item :: rest) => "[" ++ compact item ++ compactItems rest ++ "]"
  | object ((key, value) :: rest) =>
      "\x7b" ++ textForm key ++ ":" ++ compact value ++ compactMembers rest ++ "\x7d"
  | value => scalarForm value

def compactItems : List Json → String
  | [] => ""
  | item :: rest => "," ++ compact item ++ compactItems rest

def compactMembers : List (String × Json) → String
  | [] => ""
  | (key, value) :: rest =>
      "," ++ textForm key ++ ":" ++ compact value ++ compactMembers rest
end

end IssueDesk.Json
