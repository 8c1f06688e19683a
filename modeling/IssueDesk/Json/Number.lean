import IssueDesk.Decimal.Binary64

/-! Numbers in JSON text. A number without fraction and exponent that fits 64 bits, with or without
a sign, is whole; minus zero is not. Any other is a floating-point number: as many of its digits as
fit an unsigned 64-bit word are taken for the significand, which is then scaled once by the power of
ten that is left. A result beyond the largest finite number is no number. -/

namespace IssueDesk.Json

/-- Why a text is not what was expected of it: it ended too early, or it says something else. -/
inductive TextFault where
  | truncated
  | malformed
  deriving DecidableEq, Repr

inductive Number where
  | whole (value : Int)
  | real (value : Binary64)
  deriving DecidableEq, Repr

/-- The digits of a number, each part as written. -/
structure NumberText where
  negative : Bool
  whole : List Char
  fraction : List Char
  hasFraction : Bool
  exponent : List Char
  exponentNegative : Bool
  hasExponent : Bool

def digitValue (c : Char) : Nat := c.toNat - '0'.toNat

def digitsValue (cs : List Char) : Nat := cs.foldl (fun n c => 10 * n + digitValue c) 0

/-- Append digits to a significand while it fits 64 bits; the digits that do not fit remain. -/
def absorb (significand : Nat) : List Char → Nat × List Char
  | [] => (significand, [])
  | digit :: rest =>
      let next := significand * 10 + digitValue digit
      if next < Nat.pow 2 64 then absorb next rest else (significand, digit :: rest)

def powerOfTen (n : Nat) : Float := Float.ofScientific 1 false n

/-- `x * 10 ^ power`, with one rounding for powers of at most 308 and none beyond the finite
numbers. -/
def scale : Nat → Float → Int → Option Float
  | 0, x, _ => some x
  | fuel + 1, x, power =>
      if power.natAbs ≤ 308 then
        if 0 ≤ power then
          let y := x * powerOfTen power.natAbs
          if y.isInf then none else some y
        else some (x / powerOfTen power.natAbs)
      else if x == 0.0 then some x
      else if 0 ≤ power then none
      else scale fuel (x / powerOfTen 308) (power + 308)

def largestExponent : Nat := Nat.pow 2 31 - 1

def clampExponent (n : Int) : Int := max (-Nat.pow 2 31) (min n (Nat.pow 2 31 - 1))

def NumberText.signed (t : NumberText) (x : Float) : Number :=
  .real (.ofFloat (if t.negative then -x else x))

/-- The number that the digits name, `none` when it is too large. -/
def NumberText.value (t : NumberText) : Option Number :=
  let (whole, dropped) := absorb 0 t.whole
  if !t.hasFraction && !t.hasExponent && dropped.isEmpty then
    if !t.negative then some (.whole whole)
    else if whole = 0 ∨ Nat.pow 2 63 < whole then some (t.signed (UInt64.ofNat whole).toFloat)
    else some (.whole (-whole))
  else
    let (significand, unread) := absorb whole t.fraction
    let start : Int := (dropped.length : Int) - (t.fraction.length - unread.length)
    let exponent := digitsValue t.exponent
    if largestExponent < exponent then
      if significand ≠ 0 ∧ !t.exponentNegative then none else some (t.signed 0.0)
    else
      let power := clampExponent (if t.exponentNegative then start - exponent else start + exponent)
      (scale 8 (UInt64.ofNat significand).toFloat power).map t.signed

/-- What was found where a number begins. `read` is the outcome for a reader that wants the number,
`skipped` for one that passes over it; they differ where the text ends inside the number, and for a
number that is too large. -/
structure NumberScan where
  read : Except TextFault Number
  skipped : Option TextFault
  rest : List Char

/-- A number breaks off where a digit has to stand. -/
def NumberScan.broken (rest : List Char) : NumberScan :=
  { read := .error (if rest.isEmpty then .truncated else .malformed)
    skipped := some .malformed
    rest := rest }

def NumberScan.complete (t : NumberText) (rest : List Char) : NumberScan :=
  match t.value with
  | some number => ⟨.ok number, none, rest⟩
  | none => ⟨.error .malformed, none, rest⟩

def isExponentMark (c : Char) : Bool := c == 'e' || c == 'E'

def scanExponent (t : NumberText) : List Char → NumberScan
  | mark :: rest =>
      if isExponentMark mark then
        let (negative, rest) := match rest with
          | '-' :: rest => (true, rest)
          | '+' :: rest => (false, rest)
          | rest => (false, rest)
        let digits := rest.takeWhile Char.isDigit
        if digits.isEmpty then .broken rest
        else
          let t := { t with exponent := digits, exponentNegative := negative, hasExponent := true }
          .complete t (rest.dropWhile Char.isDigit)
      else .complete t (mark :: rest)
  | [] => .complete t []

def scanFraction (t : NumberText) : List Char → NumberScan
  | '.' :: rest =>
      let digits := rest.takeWhile Char.isDigit
      if digits.isEmpty then .broken rest
      else scanExponent { t with fraction := digits, hasFraction := true }
        (rest.dropWhile Char.isDigit)
  | rest => scanExponent t rest

/-- Scan a number from its sign or first digit. A zero stands alone before the point. -/
def scanNumber (cs : List Char) : NumberScan :=
  let (negative, cs) := match cs with
    | '-' :: rest => (true, rest)
    | rest => (false, rest)
  let digits := cs.takeWhile Char.isDigit
  let rest := cs.dropWhile Char.isDigit
  match digits with
  | [] => .broken cs
  | '0' :: _ :: _ => ⟨.error .malformed, some .malformed, rest⟩
  | digits => scanFraction ⟨negative, digits, [], false, [], false, false⟩ rest

end IssueDesk.Json
