/-! Floating-point numbers as they stand in a document: the sixty-four bits of a binary64. Two of
them are equal when their bits are, so the two zeros differ. A finite number is a significand below
`2^53` times a power of two.

The second part finds the shortest decimal that reads back as a given number. The reals that round
to the number form an interval around it. For one digit, two digits and so on, the two decimals
beside the number with that many digits are tried; the first count with a decimal inside the
interval wins, and of two such decimals the nearer. Seventeen digits always suffice. -/

namespace IssueDesk

structure Binary64 where
  bits : UInt64
  deriving DecidableEq, Repr, Inhabited

namespace Binary64

def ofFloat (x : Float) : Binary64 := ⟨x.toBits⟩

def toFloat (x : Binary64) : Float := Float.ofBits x.bits

def isNegative (x : Binary64) : Bool := x.bits.toNat ≥ Nat.pow 2 63

def exponentField (x : Binary64) : Nat := x.bits.toNat / Nat.pow 2 52 % Nat.pow 2 11

def fractionField (x : Binary64) : Nat := x.bits.toNat % Nat.pow 2 52

def isFinite (x : Binary64) : Bool := x.exponentField < 2047

/-- The significand `m` of the absolute value `m * 2 ^ q`. -/
def significand (x : Binary64) : Nat :=
  if x.exponentField = 0 then x.fractionField else Nat.pow 2 52 + x.fractionField

/-- The power `q` of the absolute value `m * 2 ^ q`. -/
def power (x : Binary64) : Int :=
  if x.exponentField = 0 then -1074 else (x.exponentField : Int) - 1075

end Binary64

namespace Decimal

/-- A positive decimal `digits * 10 ^ power`. -/
structure Scaled where
  digits : Nat
  power : Int
  deriving DecidableEq, Repr

/-- A positive fraction and the interval around it, all over one denominator. -/
structure Rounding where
  lower : Nat
  value : Nat
  upper : Nat
  denominator : Nat
  inclusive : Bool

/-- The interval of reals that round to `x`: half the distance to each neighbour. Below a power of
two the neighbour is twice as near. -/
def Rounding.of (x : Binary64) : Rounding :=
  let m := x.significand
  let below := if x.fractionField = 0 ∧ 1 < x.exponentField then 1 else 2
  let scale := Nat.pow 2 x.power.toNat
  { lower := (4 * m - below) * scale
    value := 4 * m * scale
    upper := (4 * m + 2) * scale
    denominator := 4 * Nat.pow 2 (-x.power).toNat
    inclusive := m % 2 = 0 }

/-- The two sides of the comparison of `digits * 10 ^ power` with `numerator / denominator`, as
naturals. -/
def sides (s : Scaled) (numerator denominator : Nat) : Nat × Nat :=
  (s.digits * denominator * Nat.pow 10 s.power.toNat, numerator * Nat.pow 10 (-s.power).toNat)

def Rounding.holds (r : Rounding) (s : Scaled) : Bool :=
  let low := sides s r.lower r.denominator
  let high := sides s r.upper r.denominator
  if r.inclusive then low.2 ≤ low.1 && high.1 ≤ high.2 else low.2 < low.1 && high.1 < high.2

/-- The least `k` with the value below `10 ^ k`. -/
def Rounding.magnitude (r : Rounding) : Int :=
  let whole := r.value / r.denominator
  if 0 < whole then (Nat.toDigits 10 whole).length
  else
    let shifts := (List.range 400).find? fun j => r.denominator ≤ r.value * Nat.pow 10 (j + 1)
    Int.negOfNat (shifts.getD 0)

/-- The value rounded down to a multiple of `10 ^ power`. -/
def Rounding.floor (r : Rounding) (power : Int) : Nat :=
  r.value * Nat.pow 10 (-power).toNat / (r.denominator * Nat.pow 10 power.toNat)

/-- Whether the decimal below is at most as far away as the one above; an exact half goes to the
even digit. -/
def Rounding.prefersFloor (r : Rounding) (power : Int) : Bool :=
  let below := r.floor power
  let (twice, middle) := sides ⟨2 * below + 1, power⟩ (2 * r.value) r.denominator
  middle < twice || (middle == twice && below % 2 == 0)

def Rounding.withDigits (r : Rounding) (count : Nat) : Option Scaled :=
  let power := r.magnitude - count
  let below : Scaled := ⟨r.floor power, power⟩
  let above : Scaled := ⟨r.floor power + 1, power⟩
  match r.holds below, r.holds above with
  | true, true => some (if r.prefersFloor power then below else above)
  | true, false => some below
  | false, true => some above
  | false, false => none

def Scaled.dropZeros : Nat → Scaled → Scaled
  | 0, s => s
  | fuel + 1, s =>
      if s.digits % 10 = 0 ∧ s.digits ≠ 0 then Scaled.dropZeros fuel ⟨s.digits / 10, s.power + 1⟩
      else s

/-- The shortest decimal of a positive finite number. -/
def shortest (x : Binary64) : Scaled :=
  let r := Rounding.of x
  let found := (List.range 17).findSome? fun count => r.withDigits (count + 1)
  (found.getD ⟨0, 0⟩).dropZeros 20

/-- How a message writes a floating-point number: by position with a point when the first digit
stands within sixteen places before the point or five after it, and else with an exponent. -/
def render (x : Binary64) : String :=
  let sign := if x.isNegative then "-" else ""
  if !x.isFinite then sign ++ (if x.fractionField = 0 then "inf" else "NaN")
  else if x.significand = 0 then sign ++ "0.0"
  else
    let s := shortest x
    let digits := toString s.digits
    let point := (digits.length : Int) + s.power
    let zeros (n : Nat) := String.ofList (List.replicate n '0')
    if 0 ≤ s.power ∧ point ≤ 16 then sign ++ digits ++ zeros s.power.toNat ++ ".0"
    else if 0 < point ∧ point ≤ 16 then
      sign ++ String.ofList (digits.toList.take point.toNat) ++ "." ++
        String.ofList (digits.toList.drop point.toNat)
    else if -5 < point ∧ point ≤ 0 then sign ++ "0." ++ zeros (-point).toNat ++ digits
    else
      let fraction := digits.toList.drop 1
      sign ++ String.ofList (digits.toList.take 1) ++
        (if fraction.isEmpty then "" else "." ++ String.ofList fraction) ++ "e" ++
        toString (point - 1)

end Decimal

end IssueDesk
