import IssueDesk.Log.Record

/-! What the host has selected, and how it is fitted to a selector of one value or of several. -/

namespace IssueDesk

inductive Selection where
  | none
  | single (value : String)
  | multi (values : List String)
  deriving DecidableEq, Repr, Inhabited

namespace Selection

/-- An empty text and an empty list count as no value. -/
def isEmpty : Selection → Bool
  | none => true
  | single value => value.isEmpty
  | multi values => values.isEmpty

def values : Selection → List String
  | none => []
  | single value => if value.isEmpty then [] else [value]
  | multi values => values

/-- A selector for one value takes the first of several; one for several makes a list of one. -/
def fit (isMulti : Bool) : Selection → Selection
  | multi values =>
      if isMulti then multi values
      else
        match values with
        | [] => none
        | first :: _ => single first
  | single value => if isMulti && !value.isEmpty then multi [value] else single value
  | none => none

/-- Values are dropped when the selection is fitted. -/
def isCut (isMulti : Bool) : Selection → Bool
  | multi values => !isMulti && 1 < values.length
  | _ => false

end Selection

end IssueDesk
