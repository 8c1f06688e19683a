/-! Dates and times in a settings file. No setting is a moment, so a moment is only recognised: the
readers return what follows it. A date has a month of the year and a day of that month, a time has
hours, minutes, seconds up to a leap second, and may have a fraction of a second; a date and a time
together may have an offset from universal time. -/

namespace IssueDesk.Toml

/-- A number of exactly so many digits. -/
def fixedDigits? (count : Nat) (cs : List Char) : Option (Nat × List Char) :=
  let digits := cs.take count
  if digits.length = count ∧ digits.all Char.isDigit then
    some (digits.foldl (fun n c => 10 * n + (c.toNat - '0'.toNat)) 0, cs.drop count)
  else none

/-- A number of two digits within bounds. -/
def pair? (least greatest : Nat) (cs : List Char) : Option (Nat × List Char) := do
  let (n, rest) ← fixedDigits? 2 cs
  if least ≤ n ∧ n ≤ greatest then some (n, rest) else none

def mark? (mark : Char) : List Char → Option (List Char)
  | c :: rest => if c = mark then some rest else none
  | [] => none

def isLeapYear (year : Nat) : Bool := year % 4 == 0 && (year % 100 != 0 || year % 400 == 0)

def daysInMonth (year month : Nat) : Nat :=
  if month = 2 then (if isLeapYear year then 29 else 28)
  else if month = 4 ∨ month = 6 ∨ month = 9 ∨ month = 11 then 30
  else 31

def date? (cs : List Char) : Option (List Char) := do
  let (year, cs) ← fixedDigits? 4 cs
  let cs ← mark? '-' cs
  let (month, cs) ← pair? 1 12 cs
  let cs ← mark? '-' cs
  let (_, cs) ← pair? 1 (daysInMonth year month) cs
  return cs

/-- A fraction of a second, if there is one. -/
def dropFraction : List Char → List Char
  | '.' :: c :: rest => if c.isDigit then rest.dropWhile Char.isDigit else '.' :: c :: rest
  | rest => rest

def time? (cs : List Char) : Option (List Char) := do
  let (_, cs) ← pair? 0 23 cs
  let cs ← mark? ':' cs
  let (_, cs) ← pair? 0 59 cs
  let cs ← mark? ':' cs
  let (_, cs) ← pair? 0 60 cs
  return dropFraction cs

def offset? : List Char → Option (List Char)
  | c :: rest =>
      if c = 'Z' ∨ c = 'z' then some rest
      else if c = '+' ∨ c = '-' then do
        let (_, rest) ← pair? 0 23 rest
        let rest ← mark? ':' rest
        let (_, rest) ← pair? 0 59 rest
        return rest
      else none
  | [] => none

def dividesMoment (c : Char) : Bool := c == 'T' || c == 't' || c == ' '

/-- The time and the offset after a date, if there are any. -/
def timeAfterDate : List Char → List Char
  | c :: rest =>
      match if dividesMoment c then time? rest else none with
      | some rest => (offset? rest).getD rest
      | none => c :: rest
  | [] => []

/-- What follows a moment, if the characters begin with one. -/
def moment? (cs : List Char) : Option (List Char) :=
  match date? cs with
  | some rest => some (timeAfterDate rest)
  | none => time? cs

end IssueDesk.Toml
