import IssueDesk.Decimal.Binary64
import IssueDesk.Json.Number
import IssueDesk.Text.Quoted

/-! Why a document does not hold what a record type asks for: the text itself is at fault, or the
text is sound and says something of another shape. Only the second kind has a message. -/

namespace IssueDesk.Wire

/-- What stood in the document, as a message names it. -/
inductive Found where
  | null
  | boolean (value : Bool)
  | whole (value : Int)
  | real (value : Binary64)
  | text (value : String)
  | sequence
  | map
  deriving DecidableEq, Repr

inductive Mismatch where
  | wrongType (found : Found) (expected : String)
  | wrongValue (found : Found) (expected : String)
  | wrongLength (count : Nat) (expected : String)
  | missingField (key : String)
  | duplicateField (key : String)
  | unknownVariant (name : String) (allowed : List String)
  deriving DecidableEq, Repr

inductive Fault where
  | text (fault : Json.TextFault)
  | mismatch (mismatch : Mismatch)
  deriving DecidableEq, Repr

def ticked (s : String) : String := "\x60" ++ s ++ "\x60"

def Found.name : Found → String
  | .null => "null"
  | .boolean b => "boolean " ++ ticked (if b then "true" else "false")
  | .whole n => "integer " ++ ticked (toString n)
  | .real x => "floating point " ++ ticked (Decimal.render x)
  | .text s => "string " ++ Text.quoted s
  | .sequence => "sequence"
  | .map => "map"

/-- One name alone, two with "or", more as a list. -/
def alternatives : List String → String
  | [] => "there are no variants"
  | [one] => "expected " ++ ticked one
  | [one, other] => "expected " ++ ticked one ++ " or " ++ ticked other
  | names => "expected one of " ++ ", ".intercalate (names.map ticked)

def Mismatch.message : Mismatch → String
  | .wrongType found expected => "invalid type: " ++ found.name ++ ", expected " ++ expected
  | .wrongValue found expected => "invalid value: " ++ found.name ++ ", expected " ++ expected
  | .wrongLength count expected =>
      "invalid length " ++ toString count ++ ", expected " ++ expected
  | .missingField key => "missing field " ++ ticked key
  | .duplicateField key => "duplicate field " ++ ticked key
  | .unknownVariant name allowed =>
      "unknown variant " ++ ticked name ++ ", " ++ alternatives allowed

end IssueDesk.Wire
