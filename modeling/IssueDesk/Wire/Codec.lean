import IssueDesk.Json.Document
import IssueDesk.Wire.Fault

/-! How a type is written as JSON and read back. A codec reads from a document, so that the faults
of a text are reported in reading order; a sound JSON value is a document without faults. Where the
document comes from matters in three places only: what is said of superfluous items in an array that
stands for a record, how the choice among names is entered, and what follows a chosen name. -/

namespace IssueDesk.Wire

open Json (TextFault Scalar Number)

/-- Where a document comes from: JSON text as it is read, a JSON value, or a table of settings. -/
inductive Origin where
  | text
  | value
  | settings
  deriving DecidableEq, Repr

structure Codec (α : Type) where
  encode : α → Json
  decode : Origin → Document → Except Fault α

def mismatch (m : Mismatch) : Except Fault α := .error (.mismatch m)

def faulty (fault : TextFault) : Except Fault α := .error (.text fault)

def readResult (read : Except TextFault α) : Except Fault α :=
  match read with
  | .ok value => .ok value
  | .error fault => faulty fault

def scalarFound : Scalar → Found
  | .null => .null
  | .boolean b => .boolean b
  | .number (.whole n) => .whole n
  | .number (.real x) => .real x

/-- The complaint about a document of the wrong type. A scalar or text is read first, so a fault in
it comes before the complaint. -/
def wrongType (expected : String) : Document → Except Fault α
  | .scalar read _ => do
      let scalar ← readResult read
      mismatch (.wrongType (scalarFound scalar) expected)
  | .text read _ => do
      let content ← readResult read
      mismatch (.wrongType (.text content) expected)
  | .array _ _ => mismatch (.wrongType .sequence expected)
  | .object _ _ | .keyless _ => mismatch (.wrongType .map expected)
  | .absent fault => faulty fault

def ended (ending : Option TextFault) : Except Fault Unit :=
  match ending with
  | some fault => faulty fault
  | none => .ok ()

namespace Codec

def text : Codec String where
  encode := Json.text
  decode _ document :=
    match document with
    | .text read _ => readResult read
    | other => wrongType "a string" other

/-- A whole number from 0 to `2 ^ 64 - 1`. -/
def count : Codec Nat where
  encode n := .integer n
  decode _ document :=
    match document with
    | .scalar (.ok (.number (.whole n))) _ =>
        if 0 ≤ n ∧ n < Nat.pow 2 64 then .ok n.toNat
        else mismatch (.wrongValue (.whole n) "u64")
    | other => wrongType "u64" other

def optional (codec : Codec α) : Codec (Option α) where
  encode := Json.ofOption codec.encode
  decode origin document :=
    match document with
    | .scalar (.ok .null) _ => .ok none
    | .scalar (.error fault) _ => faulty fault
    | other => (codec.decode origin other).map some

def decodeItems (codec : Codec α) (origin : Origin) (ending : Option TextFault) :
    List Document → Except Fault (List α)
  | [] => do
      ended ending
      return []
  | item :: rest => do
      let value ← codec.decode origin item
      let values ← decodeItems codec origin ending rest
      return value :: values

def list (codec : Codec α) : Codec (List α) where
  encode values := .array (values.map codec.encode)
  decode origin document :=
    match document with
    | .array items ending => codec.decodeItems origin ending items
    | other => wrongType "a sequence" other

def decodeMembers (codec : Codec α) (origin : Origin) (ending : Option TextFault) :
    List (Except TextFault String × Document) → Except Fault (List (String × α))
  | [] => do
      ended ending
      return []
  | (key, document) :: rest => do
      let key ← readResult key
      let value ← codec.decode origin document
      let values ← decodeMembers codec origin ending rest
      return (key, value) :: values

/-- Another type over the same JSON. -/
def convert (codec : Codec α) (make : α → β) (parts : β → α) : Codec β where
  encode value := codec.encode (parts value)
  decode origin document := (codec.decode origin document).map make

/-- Read a text as it stands. Nothing but blanks may follow the value; a fault in what follows comes
after any complaint about the value. -/
def ofText (codec : Codec α) (text : String) : Except Fault α := do
  let scan := Document.ofChars text.toList
  let value ← codec.decode .text scan.document
  match Document.trailing scan.rest with
  | some fault => faulty fault
  | none => return value

/-- Read a value. -/
def ofJson (codec : Codec α) (json : Json) : Except Fault α :=
  codec.decode .value (Document.ofJson json)

end Codec

/-- One of several names. A name also stands as the only key of an object whose value is null. -/
structure Variants (α : Type) where
  all : List (String × α)
  name : α → String

namespace Variants

def names (variants : Variants α) : List String := variants.all.map Prod.fst

def find (variants : Variants α) (name : String) : Except Fault α :=
  match variants.all.lookup name with
  | some value => .ok value
  | none => mismatch (.unknownVariant name variants.names)

/-- The value beside a chosen name has to be null. -/
def unit (document : Document) : Except Fault Unit :=
  match document with
  | .scalar (.ok .null) _ => .ok ()
  | other => wrongType "unit" other

def single : Mismatch := .wrongValue .map "map with a single key"

/-- A choice in text that is being read: after the opening brace a key has to stand, then its value
and the end. -/
def decodeText (variants : Variants α) (document : Document) : Except Fault α :=
  match document with
  | .text read _ => do
      let name ← readResult read
      variants.find name
  | .object [] none => faulty .malformed
  | .object [] (some fault) => faulty fault
  | .object ((key, document) :: rest) ending => do
      let name ← readResult key
      let value ← variants.find name
      unit document
      match rest, ending with
      | [], none => return value
      | [], some fault => faulty fault
      | _ :: _, _ => faulty .malformed
  | .keyless first => wrongType "variant identifier" first
  | .absent fault => faulty fault
  | .scalar _ _ => faulty .malformed
  | .array _ _ => faulty .malformed

def decodeValue (variants : Variants α) (document : Document) : Except Fault α :=
  match document with
  | .text read _ => do
      let name ← readResult read
      variants.find name
  | .object [(key, document)] _ => do
      let name ← readResult key
      let value ← variants.find name
      unit document
      return value
  | .object _ _ => mismatch single
  | other => wrongType "string or map" other

def codec (variants : Variants α) : Codec α where
  encode value := .text (variants.name value)
  decode origin document :=
    match origin with
    | .text => variants.decodeText document
    | .value | .settings => variants.decodeValue document

end Variants

end IssueDesk.Wire
