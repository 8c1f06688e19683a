import IssueDesk.Tracker.Entity

/-! Fuzzy matching of a filter against labels. The characters of the filter have to occur in the
label in order, not necessarily side by side. The score rewards characters that follow one another
and those at the beginning of a word, and takes a little off for every character passed over.

The score is found by filling two rows of cells in turn, one row for each character of the filter.
The rows are kept from one label to the next and are not cleared: of a kept cell only the bonus can
still be read. -/

namespace IssueDesk.Fuzzy

structure Cell where
  matched : Int
  passed : Int
  bonus : Int
  deriving DecidableEq, Repr, Inhabited

/-- Lower than every score that can occur. -/
def impossible : Int := -32768

def freshCell : Cell := ⟨impossible, impossible, 0⟩

inductive CharClass where
  | edge
  | hard
  | soft
  | number
  | upper
  | lower
  deriving DecidableEq, Repr

def isBetween (c low high : Char) : Bool := low ≤ c && c ≤ high

def isHardSeparator (c : Char) : Bool :=
  c == ' ' || c == '/' || c == '\\' || c == '|' || c == '(' || c == ')' || c == '[' || c == ']' ||
    c == '\x7b' || c == '\x7d'

def isSoftSeparator (c : Char) : Bool :=
  isBetween c '!' '\'' || isBetween c '*' '.' || isBetween c ':' '@' || isBetween c '^' '\x60' ||
    c == '~'

def charClass (c : Char) : CharClass :=
  if c == '\x00' then .edge
  else if isHardSeparator c then .hard
  else if isBetween c '0' '9' then .number
  else if isBetween c 'A' 'Z' then .upper
  else if isSoftSeparator c then .soft
  else .lower

/-- The bonus of a character for standing at the beginning of a word. -/
def placeBonus (previous c : Char) : Int :=
  match charClass previous, charClass c with
  | .edge, _ => 8
  | .hard, _ => 8
  | .soft, _ => 7
  | .lower, .upper => 6
  | .number, .upper => 6
  | _, _ => 0

/-- The bonuses of the characters of a label; the first character's counts twice. -/
def placeBonuses (label : List Char) : List Int :=
  match List.zipWith placeBonus ('\x00' :: label) label with
  | [] => []
  | first :: rest => 2 * first :: rest

def isCaseSensitive (filter : List Char) : Bool := filter.any fun c => isBetween c 'A' 'Z'

def sameChar (caseSensitive : Bool) (a b : Char) : Bool :=
  if caseSensitive then a == b else a.toLower == b.toLower

/-- Where the characters of the filter first occur in the label, one after the other. -/
def firstPlaces (same : Char → Char → Bool) : Nat → List Char → List Char → Option (List Nat)
  | _, _, [] => some []
  | _, [], _ :: _ => none
  | place, c :: label, p :: filter =>
      if same c p then (firstPlaces same (place + 1) label filter).map (place :: ·)
      else firstPlaces same (place + 1) label (p :: filter)

/-- A cell array resized to a count, cut or filled up with fresh cells. -/
def resize (cells : Array Cell) (count : Nat) : Array Cell :=
  if count ≤ cells.size then cells.extract 0 count
  else cells ++ Array.replicate (count - cells.size) freshCell

/-- A label and a filter that are being matched. -/
structure Match where
  caseSensitive : Bool
  label : Array Char
  bonuses : Array Int
  columns : Nat

def Match.same (m : Match) : Char → Char → Bool := sameChar m.caseSensitive

def Match.cell (m : Match) (row column : Nat) : Nat := row * m.columns + column

/-- Fill the cell after one character of the label, in the row of one character of the filter. -/
def Match.fill (m : Match) (row : Nat) (p : Char) (cells : Array Cell) (j : Nat) : Array Cell :=
  let here := m.cell row (j + 1)
  let before := m.cell row j
  let above := m.cell (1 - row) j
  let current := cells.getD here freshCell
  let last := cells.getD before freshCell
  let previous := cells.getD above freshCell
  let c := m.label.getD j '\x00'
  let place := m.bonuses.getD j 0
  let passed := max (last.matched - 4) (last.passed - 1)
  if m.same c p then
    let gain : Int := if !m.caseSensitive && c != p then 14 else 16
    let run := max last.bonus (max place 4)
    let cells := cells.setIfInBounds before { last with bonus := run }
    cells.setIfInBounds here
      { current with
        matched := max (previous.matched + run) (previous.passed + place) + gain
        passed }
  else cells.setIfInBounds here ⟨impossible, passed, 0⟩

/-- The columns from one on to the last of the label. -/
def columnsFrom (start stop : Nat) : List Nat := List.range' start (stop - start)

def Match.fillRow (m : Match) (row : Nat) (p : Char) (start : Nat) (cells : Array Cell) :
    Array Cell :=
  (columnsFrom start m.label.size).foldl (m.fill row p) cells

/-- Fill the rows of all characters of the filter; `row` is the row of the first. -/
def Match.fillRows (m : Match) : Nat → List (Char × Nat) → Array Cell → Array Cell
  | _, [], cells => cells
  | row, (p, start) :: rest, cells =>
      m.fillRows (1 - row) rest (m.fillRow row p start cells)

/-- Prepare the cells for a label: the row above the first is passed over, and the cell before the
first place is fresh. -/
def Match.prepare (m : Match) (first : Nat) (cells : Array Cell) : Array Cell :=
  let cells := (resize cells (2 * m.columns)).setIfInBounds (m.cell 1 first) freshCell
  (List.range m.columns).foldl
    (fun cells j => cells.setIfInBounds (m.cell 0 j) ⟨impossible, -1, 0⟩) cells

/-- The score of a label, with the cells that the next label finds. A label without the characters
of the filter leaves the cells alone. -/
def score (cells : Array Cell) (filter label : List Char) : Option Int × Array Cell :=
  let caseSensitive := isCaseSensitive filter
  match firstPlaces (sameChar caseSensitive) 0 label filter with
  | none => (none, cells)
  | some places =>
      let m : Match :=
        { caseSensitive, label := label.toArray, bonuses := (placeBonuses label).toArray
          columns := label.length + 1 }
      let cells := m.fillRows 1 (filter.zip places) (m.prepare (places.headD 0) cells)
      let row := filter.length % 2
      let scores := (columnsFrom (places.getLastD 0) m.columns).map fun j =>
        (cells.getD (m.cell row j) freshCell).matched
      (scores.max?, cells)

/-- The scores of several labels in order. -/
def scores (filter : List Char) : Array Cell → List (List Char) → List (Option Int)
  | _, [] => []
  | cells, label :: rest =>
      let (result, cells) := score cells filter label
      result :: scores filter cells rest

end Fuzzy

/-! Ranking by score. What has no score is left out; of the rest the highest score comes first, and
what scores alike keeps its order. -/

def outranks (a b : Int × α) : Bool := b.1 ≤ a.1

/-- The scored elements, best first. -/
def rank (scored : List (Option Int × α)) : List α :=
  let kept := scored.filterMap fun (score, x) => score.map fun score => (score, x)
  (kept.mergeSort outranks).map Prod.snd

/-- Narrow options by a filter with any way of scoring a label; an empty filter keeps all. -/
def rankBy (score : String → String → Option Int) (options : List SelectOption)
    (filter : String) : List SelectOption :=
  if filter.isEmpty then options
  else rank (options.map fun option => (score option.label filter, option))

/-- Narrow options by fuzzy match of their labels, best first; an empty filter keeps all. -/
def fuzzyFilter (options : List SelectOption) (filter : String) : List SelectOption :=
  if filter.isEmpty then options
  else
    let scores := Fuzzy.scores filter.toList #[] (options.map (·.label.toList))
    rank (scores.zip options)

end IssueDesk
