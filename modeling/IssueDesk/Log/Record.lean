/-! What the library reports about its own running. A record has a level, a message and named fields
in the order in which they are shown. A line of the log names the level, the part of the program
that speaks, the message and the fields. -/

namespace IssueDesk

namespace Log

inductive Level where
  | error
  | warn
  | info
  | debug
  | trace
  deriving DecidableEq, Repr

namespace Level

def name : Level → String
  | error => "ERROR"
  | warn => "WARN"
  | info => "INFO"
  | debug => "DEBUG"
  | trace => "TRACE"

/-- The more a level tells, the higher its rank. -/
def rank : Level → Nat
  | error => 1
  | warn => 2
  | info => 3
  | debug => 4
  | trace => 5

end Level

structure Record where
  level : Level
  message : String
  fields : List (String × String)
  deriving DecidableEq, Repr

/-- A record and the part of the program from which it comes. -/
structure Entry where
  target : String
  record : Record
  deriving DecidableEq, Repr

/-- Characters that a terminal would obey are spelled out in a message. -/
def harmless (c : Char) : List Char :=
  let digits := Nat.toDigits 16 c.toNat
  if c = '\x07' ∨ c = '\x08' ∨ c = '\x0c' then '\\' :: 'x' :: '0' :: digits
  else if c = '\x1b' ∨ c = '\x7f' then '\\' :: 'x' :: digits
  else if 0x80 ≤ c.toNat ∧ c.toNat ≤ 0x9f then '\\' :: 'u' :: '\x7b' :: digits ++ ['\x7d']
  else [c]

def fieldText (field : String × String) : String := " " ++ field.1 ++ "=" ++ field.2

def Entry.line (entry : Entry) : String :=
  entry.record.level.name ++ " " ++ entry.target ++ ": " ++
    String.ofList (entry.record.message.toList.flatMap harmless) ++
    String.join (entry.record.fields.map fieldText)

end Log

end IssueDesk
