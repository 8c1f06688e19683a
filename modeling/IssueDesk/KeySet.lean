/-! Finite sets of keys. A set is kept as its keys in increasing order, each once, so equal sets are
equal values and the order in which a set is written is fixed. Keys are compared character by
character. -/

namespace IssueDesk

/-- Put a key into its place among keys in increasing order. -/
def insertKey (key : String) : List String → List String
  | [] => [key]
  | k :: rest =>
      if key < k then key :: k :: rest
      else if key = k then k :: rest
      else k :: insertKey key rest

theorem mem_insertKey {key x : String} {keys : List String} :
    x ∈ insertKey key keys ↔ x = key ∨ x ∈ keys := by
  induction keys with
  | nil => simp [insertKey]
  | cons k rest ih =>
      unfold insertKey
      split
      · simp
      · split
        · simp_all
        · simp only [List.mem_cons, ih]
          grind

theorem lt_of_not_lt_of_ne {a b : String} (h : ¬a < b) (hne : a ≠ b) : b < a := by
  by_cases hba : b < a
  · exact hba
  · exact absurd (String.le_antisymm (String.not_lt.1 hba) (String.not_lt.1 h)) hne

theorem insertKey_increasing {key : String} {keys : List String}
    (h : keys.Pairwise (· < ·)) : (insertKey key keys).Pairwise (· < ·) := by
  induction keys with
  | nil => simp [insertKey]
  | cons k rest ih =>
      rw [List.pairwise_cons] at h
      unfold insertKey
      split
      · rename_i hlt
        refine List.pairwise_cons.2 ⟨?_, List.pairwise_cons.2 h⟩
        intro x hx
        rcases List.mem_cons.1 hx with rfl | hx
        · exact hlt
        · exact String.lt_trans hlt (h.1 x hx)
      · split
        · exact List.pairwise_cons.2 h
        · rename_i hlt hne
          refine List.pairwise_cons.2 ⟨?_, ih h.2⟩
          intro x hx
          rcases mem_insertKey.1 hx with rfl | hx
          · exact lt_of_not_lt_of_ne hlt hne
          · exact h.1 x hx

structure KeySet where
  keys : List String
  increasing : keys.Pairwise (· < ·)
  deriving DecidableEq

namespace KeySet

def empty : KeySet := ⟨[], List.Pairwise.nil⟩

instance : Inhabited KeySet := ⟨empty⟩

instance : Membership String KeySet := ⟨fun set key => key ∈ set.keys⟩

instance (key : String) (set : KeySet) : Decidable (key ∈ set) :=
  inferInstanceAs (Decidable (key ∈ set.keys))

def insert (set : KeySet) (key : String) : KeySet :=
  ⟨insertKey key set.keys, insertKey_increasing set.increasing⟩

def ofList (keys : List String) : KeySet := keys.foldl insert empty

def isEmpty (set : KeySet) : Bool := set.keys.isEmpty

end KeySet

end IssueDesk
