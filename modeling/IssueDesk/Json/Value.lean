import IssueDesk.Decimal.Binary64
import IssueDesk.KeyMap

/-! JSON values. Whole numbers and floating-point numbers are kept apart, as a message about a value
of the wrong type names them differently. The members of an object keep their order. -/

namespace IssueDesk

inductive Json where
  | null
  | boolean (value : Bool)
  | integer (value : Int)
  | real (value : Binary64)
  | text (value : String)
  | array (items : List Json)
  | object (members : List (String × Json))
  deriving Inhabited

namespace Json

/-- Members sorted by key; of several with one key the last stands. -/
def sortMembers (members : List (String × Json)) : List (String × Json) :=
  (KeyMap.ofList members).entries

mutual
/-- The same value with the members of every object in it sorted by key. -/
def sortKeys : Json → Json
  | array items => array (sortKeysItems items)
  | object members => object (sortMembers (sortKeysMembers members))
  | value => value

def sortKeysItems : List Json → List Json
  | [] => []
  | item :: rest => sortKeys item :: sortKeysItems rest

def sortKeysMembers : List (String × Json) → List (String × Json)
  | [] => []
  | (key, value) :: rest => (key, sortKeys value) :: sortKeysMembers rest
end

/-- The first member with a key, of an object. -/
def get? (value : Json) (key : String) : Option Json :=
  match value with
  | object members => members.lookup key
  | _ => none

def ofOption (encode : α → Json) : Option α → Json
  | some x => encode x
  | none => null

def texts (values : List String) : Json := array (values.map text)

end Json

end IssueDesk
