import IssueDesk.Json.Value
import IssueDesk.Json.Number

/-! JSON text as a tree in which the faults of the text stand where they occur. A reader that walks
the tree in order meets a fault exactly when its reading reaches it, so a complaint about an early
value comes before a complaint about later text. Three things are kept apart for that:

* a number too large and a lone surrogate are faults for a reader that wants the value and none for
  one that passes over it;
* a key and its value are separate, and the same key may stand twice;
* an array or object whose end is missing keeps what came before.

`Json.ofText` reads a whole text at once: nested at most 127 deep, of several members with one key
the last, and nothing after it. -/

namespace IssueDesk

open Json (TextFault Number NumberScan)

namespace Json

inductive Scalar where
  | null
  | boolean (value : Bool)
  | number (value : Number)
  deriving DecidableEq, Repr

end Json

open Json (Scalar)

/-- `skipped` is the fault for a reader that passes over the value. In `keyless` an object begins
with something that is no key, and in `absent` no value begins. -/
inductive Document where
  | scalar (read : Except TextFault Scalar) (skipped : Option TextFault)
  | text (read : Except TextFault String) (skipped : Option TextFault)
  | array (items : List Document) (ending : Option TextFault)
  | object (members : List (Except TextFault String × Document)) (ending : Option TextFault)
  | keyless (first : Document)
  | absent (fault : TextFault)

namespace Json

def isBlank (c : Char) : Bool := c == ' ' || c == '\n' || c == '\t' || c == '\r'

def dropBlanks (cs : List Char) : List Char := cs.dropWhile isBlank

/-- A part of a text between quotes: a character, or a code unit written with four digits. -/
inductive TextPiece where
  | character (c : Char)
  | unit (code : Nat)

def hexValue? (c : Char) : Option Nat :=
  if '0' ≤ c ∧ c ≤ '9' then some (c.toNat - '0'.toNat)
  else if 'a' ≤ c ∧ c ≤ 'f' then some (c.toNat - 'a'.toNat + 10)
  else if 'A' ≤ c ∧ c ≤ 'F' then some (c.toNat - 'A'.toNat + 10)
  else none

def hexUnit? (a b c d : Char) : Option Nat := do
  let a ← hexValue? a
  let b ← hexValue? b
  let c ← hexValue? c
  let d ← hexValue? d
  return ((a * 16 + b) * 16 + c) * 16 + d

def simpleEscape? (c : Char) : Option Char :=
  match c with
  | '"' => some '"'
  | '\\' => some '\\'
  | '/' => some '/'
  | 'b' => some '\x08'
  | 'f' => some '\x0c'
  | 'n' => some '\n'
  | 'r' => some '\r'
  | 't' => some '\t'
  | _ => none

structure PieceScan where
  pieces : List TextPiece
  fault : Option TextFault
  rest : List Char

def PieceScan.cons (piece : TextPiece) (scan : PieceScan) : PieceScan :=
  { scan with pieces := piece :: scan.pieces }

/-- Scan a text after its opening quote. The four digits of a code unit are counted in bytes: with
fewer than four left the text has ended. -/
def scanPieces : List Char → PieceScan
  | [] => ⟨[], some .truncated, []⟩
  | '"' :: rest => ⟨[], none, rest⟩
  | '\\' :: 'u' :: a :: b :: c :: d :: rest =>
      match hexUnit? a b c d with
      | some code => (scanPieces rest).cons (.unit code)
      | none => ⟨[], some .malformed, rest⟩
  | '\\' :: 'u' :: rest =>
      let bytes := (rest.map Char.utf8Size).sum
      ⟨[], some (if bytes < 4 then .truncated else .malformed), []⟩
  | '\\' :: c :: rest =>
      match simpleEscape? c with
      | some c => (scanPieces rest).cons (.character c)
      | none => ⟨[], some .malformed, rest⟩
  | ['\\'] => ⟨[], some .truncated, []⟩
  | c :: rest =>
      if c.toNat < 0x20 then ⟨[], some .malformed, rest⟩
      else (scanPieces rest).cons (.character c)

def isHighSurrogate (code : Nat) : Bool := 0xD800 ≤ code && code ≤ 0xDBFF

def isLowSurrogate (code : Nat) : Bool := 0xDC00 ≤ code && code ≤ 0xDFFF

/-- The characters of the pieces. A high surrogate has to be followed by a low one. -/
def joinPieces (fault : Option TextFault) : List TextPiece → Except TextFault (List Char)
  | [] =>
      match fault with
      | some fault => .error fault
      | none => .ok []
  | .character c :: rest => (joinPieces fault rest).map (c :: ·)
  | [.unit code] =>
      if isHighSurrogate code then .error (fault.getD .malformed)
      else if isLowSurrogate code then .error .malformed
      else (joinPieces fault []).map (Char.ofNat code :: ·)
  | .unit code :: .unit low :: rest =>
      if isHighSurrogate code then
        if isLowSurrogate low then
          let c := Char.ofNat (0x10000 + (code - 0xD800) * 0x400 + (low - 0xDC00))
          (joinPieces fault rest).map (c :: ·)
        else .error .malformed
      else if isLowSurrogate code then .error .malformed
      else (joinPieces fault (.unit low :: rest)).map (Char.ofNat code :: ·)
  | .unit code :: rest =>
      if isHighSurrogate code || isLowSurrogate code then .error .malformed
      else (joinPieces fault rest).map (Char.ofNat code :: ·)

def PieceScan.read (scan : PieceScan) : Except TextFault String :=
  (joinPieces scan.fault scan.pieces).map String.ofList

/-- The rest of a word such as `null`, after its first letter. -/
def scanWord (value : Scalar) : List Char → List Char → NumberScan ⊕ (Scalar × List Char)
  | [], cs => .inr (value, cs)
  | _ :: _, [] => .inl ⟨.error .truncated, some .truncated, []⟩
  | letter :: word, c :: cs =>
      if letter = c then scanWord value word cs else .inl ⟨.error .malformed, some .malformed, cs⟩

end Json

/-- A document, the fault for a reader that passes over it, and the text after it. -/
structure DocumentScan where
  document : Document
  fault : Option TextFault
  rest : List Char

namespace Document

open Json

def scanWordDocument (value : Scalar) (word : List Char) (cs : List Char) : DocumentScan :=
  match scanWord value word cs with
  | .inr (value, rest) => ⟨.scalar (.ok value) none, none, rest⟩
  | .inl scan =>
      let fault := scan.skipped.getD .malformed
      ⟨.scalar (.error fault) scan.skipped, scan.skipped, scan.rest⟩

def scanTextDocument (cs : List Char) : DocumentScan :=
  let scan := scanPieces cs
  ⟨.text scan.read scan.fault, scan.fault, scan.rest⟩

def scanNumberDocument (cs : List Char) : DocumentScan :=
  let scan := scanNumber cs
  ⟨.scalar (scan.read.map .number) scan.skipped, scan.skipped, scan.rest⟩

structure ItemsScan where
  items : List Document
  ending : Option TextFault
  fault : Option TextFault
  rest : List Char

structure MembersScan where
  members : List (Except TextFault String × Document)
  ending : Option TextFault
  fault : Option TextFault
  rest : List Char

mutual
/-- Scan one value. The fuel bounds the number of values and separators. -/
def scan : Nat → List Char → DocumentScan
  | 0, cs => ⟨.absent .malformed, some .malformed, cs⟩
  | fuel + 1, cs =>
      match dropBlanks cs with
      | [] => ⟨.absent .truncated, some .truncated, []⟩
      | '"' :: rest => scanTextDocument rest
      | 'n' :: rest => scanWordDocument .null ['u', 'l', 'l'] rest
      | 't' :: rest => scanWordDocument (.boolean true) ['r', 'u', 'e'] rest
      | 'f' :: rest => scanWordDocument (.boolean false) ['a', 'l', 's', 'e'] rest
      | '[' :: rest =>
          match dropBlanks rest with
          | [] => ⟨.array [] (some .truncated), some .truncated, []⟩
          | ']' :: rest => ⟨.array [] none, none, rest⟩
          | rest =>
              let scan := scanItems fuel rest
              ⟨.array scan.items scan.ending, scan.fault, scan.rest⟩
      | '\x7b' :: rest =>
          match dropBlanks rest with
          | [] => ⟨.object [] (some .truncated), some .truncated, []⟩
          | '\x7d' :: rest => ⟨.object [] none, none, rest⟩
          | '"' :: rest =>
              let scan := scanMembers fuel ('"' :: rest)
              ⟨.object scan.members scan.ending, scan.fault, scan.rest⟩
          | rest => ⟨.keyless (scan fuel rest).document, some .malformed, rest⟩
      | c :: rest =>
          if c == '-' || c.isDigit then scanNumberDocument (c :: rest)
          else ⟨.absent .malformed, some .malformed, c :: rest⟩

/-- Scan the items of an array from one of them on. After a comma another item has to stand. -/
def scanItems : Nat → List Char → ItemsScan
  | 0, cs => ⟨[], some .malformed, some .malformed, cs⟩
  | fuel + 1, cs =>
      let item := scan fuel cs
      match item.fault with
      | some fault => ⟨[item.document], none, some fault, item.rest⟩
      | none =>
          match dropBlanks item.rest with
          | [] => ⟨[item.document], some .truncated, some .truncated, []⟩
          | ']' :: rest => ⟨[item.document], none, none, rest⟩
          | ',' :: rest =>
              let later := scanItems fuel rest
              { later with items := item.document :: later.items }
          | rest => ⟨[item.document], some .malformed, some .malformed, rest⟩

/-- Scan the members of an object from a key on. -/
def scanMembers : Nat → List Char → MembersScan
  | 0, cs => ⟨[], some .malformed, some .malformed, cs⟩
  | fuel + 1, cs =>
      match dropBlanks cs with
      | [] => ⟨[], some .truncated, some .truncated, []⟩
      | '"' :: rest =>
          let pieces := scanPieces rest
          let key := pieces.read
          match pieces.fault with
          | some fault => ⟨[(key, .absent fault)], none, some fault, pieces.rest⟩
          | none =>
              match dropBlanks pieces.rest with
              | ':' :: rest =>
                  let value := scan fuel rest
                  match value.fault with
                  | some fault => ⟨[(key, value.document)], none, some fault, value.rest⟩
                  | none =>
                      match dropBlanks value.rest with
                      | [] => ⟨[(key, value.document)], some .truncated, some .truncated, []⟩
                      | '\x7d' :: rest => ⟨[(key, value.document)], none, none, rest⟩
                      | ',' :: rest =>
                          let later := scanMembers fuel rest
                          { later with members := (key, value.document) :: later.members }
                      | rest => ⟨[(key, value.document)], some .malformed, some .malformed, rest⟩
              | [] => ⟨[(key, .absent .truncated)], none, some .truncated, []⟩
              | rest => ⟨[(key, .absent .malformed)], none, some .malformed, rest⟩
      | rest => ⟨[], some .malformed, some .malformed, rest⟩
end

/-- The document at the start of a text, and what follows it. -/
def ofChars (cs : List Char) : DocumentScan := scan (2 * cs.length + 2) cs

/-- What a reader of the whole text says after it has read the document: nothing may follow. -/
def trailing (rest : List Char) : Option TextFault :=
  if (dropBlanks rest).isEmpty then none else some .malformed

mutual
/-- The fault that a reader meets who passes over the document. -/
def skip : Document → Option TextFault
  | .scalar _ skipped => skipped
  | .text _ skipped => skipped
  | .array items ending => (skipItems items).or ending
  | .object members ending => (skipMembers members).or ending
  | .keyless _ => some .malformed
  | .absent fault => some fault

def skipItems : List Document → Option TextFault
  | [] => none
  | item :: rest => (skip item).or (skipItems rest)

def skipMembers : List (Except TextFault String × Document) → Option TextFault
  | [] => none
  | (_, value) :: rest => (skip value).or (skipMembers rest)
end

def numberJson : Number → Json
  | .whole n => .integer n
  | .real x => .real x

def scalarJson : Scalar → Json
  | .null => .null
  | .boolean b => .boolean b
  | .number n => numberJson n

mutual
/-- The value that the document holds, if arrays and objects are nested at most `depth` deep. -/
def toJson (depth : Nat) : Document → Except TextFault Json
  | .scalar read _ => read.map scalarJson
  | .text read _ => read.map .text
  | .array items ending =>
      if depth = 0 then .error .malformed
      else do
        let items ← itemsJson (depth - 1) items
        match ending with
        | some fault => .error fault
        | none => .ok (.array items)
  | .object members ending =>
      if depth = 0 then .error .malformed
      else do
        let members ← membersJson (depth - 1) members
        match ending with
        | some fault => .error fault
        | none => .ok (.object (sortMembers members))
  | .keyless _ => .error .malformed
  | .absent fault => .error fault

def itemsJson (depth : Nat) : List Document → Except TextFault (List Json)
  | [] => .ok []
  | item :: rest => do
      let item ← toJson depth item
      let rest ← itemsJson depth rest
      return item :: rest

def membersJson (depth : Nat) :
    List (Except TextFault String × Document) → Except TextFault (List (String × Json))
  | [] => .ok []
  | (key, value) :: rest => do
      let key ← key
      let value ← toJson depth value
      let rest ← membersJson depth rest
      return (key, value) :: rest
end

mutual
/-- A value as a document without faults. -/
def ofJson : Json → Document
  | .null => .scalar (.ok .null) none
  | .boolean b => .scalar (.ok (.boolean b)) none
  | .integer n => .scalar (.ok (.number (.whole n))) none
  | .real x => .scalar (.ok (.number (.real x))) none
  | .text s => .text (.ok s) none
  | .array items => .array (ofItems items) none
  | .object members => .object (ofMembers members) none

def ofItems : List Json → List Document
  | [] => []
  | item :: rest => ofJson item :: ofItems rest

def ofMembers : List (String × Json) → List (Except TextFault String × Document)
  | [] => []
  | (key, value) :: rest => (.ok key, ofJson value) :: ofMembers rest
end

end Document

def Json.depthLimit : Nat := 127

/-- The value of a whole text. -/
def Json.ofText (s : String) : Except Json.TextFault Json := do
  let scan := Document.ofChars s.toList
  let value ← scan.document.toJson Json.depthLimit
  match Document.trailing scan.rest with
  | some fault => .error fault
  | none => .ok value

end IssueDesk
