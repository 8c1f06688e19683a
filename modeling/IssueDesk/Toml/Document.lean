import IssueDesk.Toml.Statement

/-! A whole settings file. Its statements are carried out in order on the outermost table; an
assignment belongs to the table whose header came last. -/

namespace IssueDesk.Toml

/-- The outermost table so far, and the path of the table that is being filled. -/
structure Draft where
  entries : Entries
  place : List String

namespace Draft

/-- Carry out a change at the table that holds the last key of a path. -/
def atHeader (draft : Draft) (path : List String) (change : String → Entries → Option Entries) :
    Option Draft := do
  let key ← path.getLast?
  let entries ← draft.entries |>
    Entries.atPath .passed (fun _ inner => change key inner) path.dropLast .headed
  return { entries, place := path }

def perform (draft : Draft) : Statement → Option Draft
  | .header path => draft.atHeader path Entries.openTable
  | .item path => draft.atHeader path Entries.openItem
  | .assignment assignment => do
      let entries ← draft.entries |>
        Entries.atPath .passed (fun _ inner => inner.assign assignment) draft.place .headed
      return { draft with entries }

end Draft

/-- The outermost table of a text, if the text is sound. -/
def ofText (text : String) : Option Value := do
  let statements ← statements? text
  let draft ← statements.foldlM Draft.perform { entries := [], place := [] }
  return .table .headed draft.entries

end IssueDesk.Toml
