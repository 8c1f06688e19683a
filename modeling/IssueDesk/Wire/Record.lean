import IssueDesk.Wire.Codec

/-! Records on the wire. A record type is described once, as the list of its fields, and the
description serves both directions. Writing puts the fields in order, leaving out those that are
hidden. Reading takes an object or an array.

In an object the members are taken in the order in which they stand: a key that the record does not
know is passed over, a known key that stands twice is refused, and only after the last member are
the fields without a member looked at, in the order of the description. In an array the items are
the fields in order, and fields may be missing at the end. -/

namespace IssueDesk.Wire

open Json (TextFault)

/-- One field. `absent` is its value when an object has no member for it, `short` its value when an
array ends before it; a field without such a value is required there. -/
structure Field (α : Type) where
  key : String
  codec : Codec α
  absent : Option α
  short : Option α
  hidden : α → Bool

namespace Field

def required (key : String) (codec : Codec α) : Field α := ⟨key, codec, none, none, fun _ => false⟩

def withDefault (key : String) (codec : Codec α) (value : α) : Field α :=
  ⟨key, codec, some value, some value, fun _ => false⟩

/-- A field that an object may leave out, but not an array. -/
def nullable (key : String) (codec : Codec α) : Field (Option α) :=
  ⟨key, codec.optional, some none, none, fun _ => false⟩

def optional (key : String) (codec : Codec α) : Field (Option α) :=
  withDefault key codec.optional none

/-- An optional field that is not written when it holds nothing. -/
def omittable (key : String) (codec : Codec α) : Field (Option α) :=
  { optional key codec with hidden := Option.isNone }

end Field

/-- The fields of a record in order. The record itself is the tuple of their values, and what has
been read of it so far the tuple of those that have come. -/
inductive Fields : Type → Type → Type 1 where
  | nil : Fields Unit Unit
  | cons (field : Field α) (rest : Fields ρ δ) : Fields (α × ρ) (Option α × δ)

namespace Fields

def keys : Fields ρ δ → List String
  | nil => []
  | cons field rest => field.key :: keys rest

def blank : Fields ρ δ → δ
  | nil => ()
  | cons _ rest => (none, blank rest)

/-- Put the value of a member into its place. -/
def put (origin : Origin) (key : String) (document : Document) :
    Fields ρ δ → δ → Except Fault δ
  | nil, draft =>
      match document.skip with
      | some fault => faulty fault
      | none => .ok draft
  | cons field rest, (value, draft) =>
      if field.key = key then
        match value with
        | some _ => mismatch (.duplicateField key)
        | none => do
            let value ← field.codec.decode origin document
            return (some value, draft)
      else do
        let draft ← put origin key document rest draft
        return (value, draft)

def putAll (origin : Origin) (fields : Fields ρ δ) :
    List (Except TextFault String × Document) → δ → Except Fault δ
  | [], draft => .ok draft
  | (key, document) :: rest, draft => do
      let key ← readResult key
      let draft ← put origin key document fields draft
      putAll origin fields rest draft

/-- The record, once no more members come. -/
def finish : Fields ρ δ → δ → Except Fault ρ
  | nil, _ => .ok ()
  | cons field rest, (value, draft) =>
      match value.or field.absent with
      | some value => do
          let others ← finish rest draft
          return (value, others)
      | none => mismatch (.missingField field.key)

def ofMembers (origin : Origin) (fields : Fields ρ δ)
    (members : List (Except TextFault String × Document)) (ending : Option TextFault) :
    Except Fault ρ := do
  let draft ← putAll origin fields members (blank fields)
  ended ending
  finish fields draft

/-- Read the fields from the items of an array; what is left of the items is returned. `place` is
the number of items before these, and `expected` names the record. -/
def takeItems (origin : Origin) (expected : String) (ending : Option TextFault) :
    Fields ρ δ → (place : Nat) → List Document → Except Fault (ρ × List Document)
  | nil, _, items => .ok ((), items)
  | cons field rest, place, item :: items => do
      let value ← field.codec.decode origin item
      let (others, items) ← takeItems origin expected ending rest (place + 1) items
      return ((value, others), items)
  | cons field rest, place, [] => do
      ended ending
      match field.short with
      | some value => do
          let (others, items) ← takeItems origin expected ending rest (place + 1) []
          return ((value, others), items)
      | none => mismatch (.wrongLength place expected)

/-- Superfluous items are malformed in text, counted in a value and passed over in settings. -/
def ofItems (origin : Origin) (expected : String) (fields : Fields ρ δ) (items : List Document)
    (ending : Option TextFault) : Except Fault ρ := do
  let (record, left) ← takeItems origin expected ending fields 0 items
  match origin, left with
  | .text, [] => do
      ended ending
      return record
  | .text, _ :: _ => faulty .malformed
  | .value, [] => return record
  | .value, _ :: _ => mismatch (.wrongLength items.length "fewer elements in array")
  | .settings, _ => return record

def members : Fields ρ δ → ρ → List (String × Json)
  | nil, _ => []
  | cons field rest, (value, others) =>
      if field.hidden value then members rest others
      else (field.key, field.codec.encode value) :: members rest others

end Fields

/-- How a message names a record type and its size. -/
def recordLength (name : String) (size : Nat) : String :=
  "struct " ++ name ++ " with " ++ toString size ++ if size = 1 then " element" else " elements"

/-- The codec of a record type with a name and fields. -/
def Codec.record (name : String) (fields : Fields ρ δ) (make : ρ → α) (parts : α → ρ) :
    Codec α where
  encode value := .object (fields.members (parts value))
  decode origin document :=
    match document with
    | .array items ending =>
        (fields.ofItems origin (recordLength name fields.keys.length) items ending).map make
    | .object members ending => (fields.ofMembers origin members ending).map make
    | .keyless _ => faulty .malformed
    | other => wrongType ("struct " ++ name) other

end IssueDesk.Wire
