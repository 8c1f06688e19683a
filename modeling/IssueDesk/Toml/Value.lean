import IssueDesk.Toml.Number

/-! Values of a settings file, and tables while they are being filled. A table remembers how it came
about, for that decides who may still add to it:

* one between braces stands as it is;
* one with a header of its own takes the keys below the header, and headers of tables inside it;
* one that headers only pass through can still get its own header;
* one that dotted keys have made takes more dotted keys, but no header of its own.

An array of tables that grows by headers is kept apart from an array that is written down. -/

namespace IssueDesk.Toml

/-- How a table came about. -/
inductive Standing where
  | closed
  | headed
  | passed
  | dotted
  deriving DecidableEq, Repr

inductive Value where
  | text (value : String)
  | number (value : Number)
  | boolean (value : Bool)
  | moment
  | array (items : List Value)
  | table (standing : Standing) (entries : List (String × Value))
  | tables (items : List (List (String × Value)))
  deriving Inhabited

abbrev Entries := List (String × Value)

/-- A value under a key, which may be reached through a path of other keys. -/
structure Assignment where
  path : List String
  key : String
  value : Value

namespace Entries

def replace (entries : Entries) (key : String) (value : Value) : Entries :=
  entries.map fun (k, v) => if k = key then (k, value) else (k, v)

/-- Whether a path that makes tables of one standing may lead through a table of another. -/
def passes (making standing : Standing) : Bool :=
  match making, standing with
  | _, .closed => false
  | .dotted, .headed => false
  | _, _ => true

/-- Change the table to which a path leads. Tables that are missing on the way are made. An array of
tables is passed through its last one. -/
def atPath (making : Standing) (change : Standing → Entries → Option Entries) :
    List String → Standing → Entries → Option Entries
  | [], standing, entries => change standing entries
  | key :: path, _, entries =>
      match entries.lookup key with
      | none => do
          let inner ← atPath making change path making []
          return entries ++ [(key, .table making inner)]
      | some (.table standing inner) =>
          if passes making standing then do
            let inner ← atPath making change path standing inner
            return entries.replace key (.table standing inner)
          else none
      | some (.tables items) =>
          match items.getLast? with
          | some last => do
              let last ← atPath making change path .headed last
              return entries.replace key (.tables (items.dropLast ++ [last]))
          | none => none
      | some _ => none

def insertNew (entries : Entries) (key : String) (value : Value) : Option Entries :=
  match entries.lookup key with
  | some _ => none
  | none => some (entries ++ [(key, value)])

/-- Put a value under a new key. The table that a dotted key leads to has to be one that dotted keys
have made. -/
def assign (entries : Entries) (assignment : Assignment) : Option Entries :=
  entries |> atPath .dotted (fun standing inner =>
      if assignment.path.isEmpty || standing = .dotted then
        inner.insertNew assignment.key assignment.value
      else none)
    assignment.path .headed

/-- The entries of a table that is written between braces. -/
def ofAssignments (assignments : List Assignment) : Option Entries :=
  assignments.foldlM assign []

/-- Give a table its own header. It may have been passed through before. -/
def openTable (key : String) (entries : Entries) : Option Entries :=
  match entries.lookup key with
  | none => some (entries ++ [(key, .table .headed [])])
  | some (.table .passed inner) => some (entries.replace key (.table .headed inner))
  | some _ => none

/-- Begin another table of an array of tables. -/
def openItem (key : String) (entries : Entries) : Option Entries :=
  match entries.lookup key with
  | none => some (entries ++ [(key, .tables [[]])])
  | some (.tables items) => some (entries.replace key (.tables (items ++ [[]])))
  | some _ => none

end Entries

def Number.document : Number → Document
  | .whole n => .scalar (.ok (.number (.whole n))) none
  | .real x => .scalar (.ok (.number (.real x))) none

namespace Value

mutual
/-- The value as a document without faults. A moment reads as a record without any known key. -/
def document : Value → Document
  | text s => .text (.ok s) none
  | number n => n.document
  | boolean b => .scalar (.ok (.boolean b)) none
  | moment => .object [] none
  | array items => .array (itemDocuments items) none
  | table _ entries => .object (members entries) none
  | tables items => .array (tableDocuments items) none

def itemDocuments : List Value → List Document
  | [] => []
  | item :: rest => document item :: itemDocuments rest

def members : List (String × Value) → List (Except Json.TextFault String × Document)
  | [] => []
  | (key, value) :: rest => (.ok key, document value) :: members rest

def tableDocuments : List (List (String × Value)) → List Document
  | [] => []
  | entries :: rest => .object (members entries) none :: tableDocuments rest
end

end Value

end IssueDesk.Toml
