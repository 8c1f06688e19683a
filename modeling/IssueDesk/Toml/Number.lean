import IssueDesk.Json.Document

/-! Numbers in a settings file. Single underscores may stand between digits. A whole number is
decimal, without leading zeros, or has a prefix for one of three other bases and then no sign; it
fits 64 bits with a sign. A floating-point number has a fraction, an exponent or both, or is a word;
a positive one beyond the largest finite number is refused. -/

namespace IssueDesk.Toml

inductive Number where
  | whole (value : Int)
  | real (value : Binary64)
  deriving DecidableEq, Repr

/-- The digits that follow a digit. After an underscore another digit has to stand. -/
def moreDigits (isDigit : Char → Bool) : List Char → Option (List Char × List Char)
  | '_' :: c :: rest =>
      if isDigit c then (moreDigits isDigit rest).map fun (digits, rest) => (c :: digits, rest)
      else none
  | c :: rest =>
      if isDigit c then (moreDigits isDigit rest).map fun (digits, rest) => (c :: digits, rest)
      else some ([], c :: rest)
  | [] => some ([], [])

/-- One digit or more, without the underscores between them. -/
def digits? (isDigit : Char → Bool) : List Char → Option (List Char × List Char)
  | c :: rest =>
      if isDigit c then (moreDigits isDigit rest).map fun (digits, rest) => (c :: digits, rest)
      else none
  | [] => none

/-- Decimal digits before the point; a zero stands alone. -/
def wholeDigits? : List Char → Option (List Char × List Char)
  | '0' :: rest => some (['0'], rest)
  | cs => digits? Char.isDigit cs

def valueIn (base : Nat) (digits : List Char) : Nat :=
  digits.foldl (fun n c => base * n + (Json.hexValue? c).getD 0) 0

def isDigitOf (base : Nat) (c : Char) : Bool := (Json.hexValue? c).any (· < base)

def wholeNumber? (value : Int) : Option Number :=
  if -Nat.pow 2 63 ≤ value ∧ value < Nat.pow 2 63 then some (.whole value) else none

/-- A whole number in another base, after the prefix. -/
def basedNumber? (base : Nat) (cs : List Char) : Option (Number × List Char) := do
  let (digits, rest) ← digits? (isDigitOf base) cs
  let number ← wholeNumber? (valueIn base digits)
  return (number, rest)

def signed (negative : Bool) (x : Float) : Binary64 := .ofFloat (if negative then -x else x)

/-- The number nearest to `significand * 10 ^ exponent`. Powers at which every significand of the
given number of digits is beyond the finite numbers, or next to zero, are cut off. -/
def nearest (significand digitCount : Nat) (exponent : Int) : Float :=
  let bound : Int := digitCount + 400
  let exponent := max (-bound) (min exponent bound)
  if exponent < 0 then .ofScientific significand true exponent.natAbs
  else .ofScientific significand false exponent.natAbs

def realNumber? (negative : Bool) (whole fraction : List Char) (exponent : Int) : Option Number :=
  let digits := whole ++ fraction
  let x := nearest (valueIn 10 digits) digits.length (exponent - fraction.length)
  if x.isInf && !negative then none else some (.real (signed negative x))

def infinity : Float := .ofBits 0x7FF0000000000000

def notANumber : Float := .ofBits 0x7FF8000000000000

/-- The exponent, if there is one. -/
def exponent? : List Char → Option (Option Int × List Char)
  | c :: rest =>
      if c = 'e' ∨ c = 'E' then do
        let (negative, rest) := match rest with
          | '-' :: rest => (true, rest)
          | '+' :: rest => (false, rest)
          | rest => (false, rest)
        let (digits, rest) ← digits? Char.isDigit rest
        let value : Int := valueIn 10 digits
        return (some (if negative then -value else value), rest)
      else some (none, c :: rest)
  | [] => some (none, [])

/-- The fraction, if there is one. -/
def fraction? : List Char → Option (Option (List Char) × List Char)
  | '.' :: rest => (digits? Char.isDigit rest).map fun (digits, rest) => (some digits, rest)
  | rest => some (none, rest)

/-- A decimal number after its sign. -/
def decimalNumber? (negative : Bool) (cs : List Char) : Option (Number × List Char) := do
  let (whole, rest) ← wholeDigits? cs
  let (fraction, rest) ← fraction? rest
  let (exponent, rest) ← exponent? rest
  if fraction.isNone ∧ exponent.isNone then
    let value : Int := valueIn 10 whole
    let number ← wholeNumber? (if negative then -value else value)
    return (number, rest)
  else
    let number ← realNumber? negative whole (fraction.getD []) (exponent.getD 0)
    return (number, rest)

/-- A number without prefix, after its sign. -/
def unsignedNumber? (negative : Bool) : List Char → Option (Number × List Char)
  | 'i' :: 'n' :: 'f' :: rest => some (.real (signed negative infinity), rest)
  | 'n' :: 'a' :: 'n' :: rest => some (.real (signed negative notANumber), rest)
  | cs => decimalNumber? negative cs

def number? : List Char → Option (Number × List Char)
  | '0' :: 'x' :: rest => basedNumber? 16 rest
  | '0' :: 'o' :: rest => basedNumber? 8 rest
  | '0' :: 'b' :: rest => basedNumber? 2 rest
  | '-' :: rest => unsignedNumber? true rest
  | '+' :: rest => unsignedNumber? false rest
  | cs => unsignedNumber? false cs

end IssueDesk.Toml
