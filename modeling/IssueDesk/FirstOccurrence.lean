/-! Lists without repetitions. Of several elements with one key the first stays, in its place. -/

namespace IssueDesk

/-- The elements whose key no earlier element has. -/
def distinctBy [DecidableEq κ] (key : α → κ) : List α → List α
  | [] => []
  | x :: rest => x :: (distinctBy key rest).filter fun y => key y ≠ key x

def distinct [DecidableEq α] (xs : List α) : List α := distinctBy id xs

theorem mem_of_mem_distinctBy [DecidableEq κ] {key : α → κ} {xs : List α} {x : α}
    (h : x ∈ distinctBy key xs) : x ∈ xs := by
  induction xs with
  | nil => simp [distinctBy] at h
  | cons y rest ih =>
      rcases List.mem_cons.1 h with rfl | h
      · exact List.mem_cons_self
      · exact List.mem_cons_of_mem _ (ih (List.mem_filter.1 h).1)

theorem distinctBy_pairwise [DecidableEq κ] (key : α → κ) (xs : List α) :
    (distinctBy key xs).Pairwise fun x y => key x ≠ key y := by
  induction xs with
  | nil => exact List.Pairwise.nil
  | cons x rest ih =>
      refine List.pairwise_cons.2 ⟨fun y hy => ?_, ih.filter _⟩
      exact fun e => of_decide_eq_true (List.mem_filter.1 hy).2 e.symm

/-- Every key keeps a representative. -/
theorem exists_mem_distinctBy [DecidableEq κ] {key : α → κ} {xs : List α} {x : α} (h : x ∈ xs) :
    ∃ y ∈ distinctBy key xs, key y = key x := by
  induction xs with
  | nil => simp at h
  | cons z rest ih =>
      by_cases hz : key z = key x
      · exact ⟨z, List.mem_cons_self, hz⟩
      · rcases List.mem_cons.1 h with rfl | h
        · exact absurd rfl hz
        · obtain ⟨y, hy, hk⟩ := ih h
          refine ⟨y, List.mem_cons_of_mem _ (List.mem_filter.2 ⟨hy, ?_⟩), hk⟩
          exact decide_eq_true fun e => hz (e.symm.trans hk)

end IssueDesk
