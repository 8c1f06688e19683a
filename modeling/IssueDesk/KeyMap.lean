import IssueDesk.KeySet

/-! Finite maps from keys, kept as their entries in increasing order of the keys. -/

namespace IssueDesk

/-- Put an entry into its place among entries in increasing order, instead of one with its key. -/
def insertEntry (key : String) (value : α) : List (String × α) → List (String × α)
  | [] => [(key, value)]
  | (k, v) :: rest =>
      if key < k then (key, value) :: (k, v) :: rest
      else if key = k then (k, value) :: rest
      else (k, v) :: insertEntry key value rest

theorem keys_insertEntry {key : String} {value : α} {entries : List (String × α)} :
    (insertEntry key value entries).map Prod.fst = insertKey key (entries.map Prod.fst) := by
  induction entries with
  | nil => rfl
  | cons entry rest ih =>
      obtain ⟨k, v⟩ := entry
      simp only [insertEntry, List.map_cons, insertKey]
      split
      · rfl
      · split
        · rfl
        · simp [ih]

structure KeyMap (α : Type) where
  entries : List (String × α)
  increasing : (entries.map Prod.fst).Pairwise (· < ·)
  deriving DecidableEq

namespace KeyMap

def empty : KeyMap α := ⟨[], by simp⟩

instance : Inhabited (KeyMap α) := ⟨empty⟩

def get? (map : KeyMap α) (key : String) : Option α := map.entries.lookup key

def insert (map : KeyMap α) (key : String) (value : α) : KeyMap α :=
  ⟨insertEntry key value map.entries, by
    rw [keys_insertEntry]
    exact insertKey_increasing map.increasing⟩

/-- The map of a list of entries; of several with one key the last stands. -/
def ofList (entries : List (String × α)) : KeyMap α :=
  entries.foldl (fun map entry => map.insert entry.1 entry.2) empty

end KeyMap

end IssueDesk
