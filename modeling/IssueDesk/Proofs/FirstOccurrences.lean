import IssueDesk.FirstOccurrence
import Mathlib.Data.List.Nodup
import Mathlib.Data.List.Sort

/-! The list of what occurs in another list, each element once, in the order in which they first
occur. There is one such list, and `distinct` gives it. An element is placed by `idxOf`, which is
where it first stands, so the later occurrences of an element do not count.

Where elements are told apart by a key, two of one key may differ, so there the places are chosen and
not the elements (`PickedAt`): `distinctBy` gives what stands at the places whose key is a new one. -/

namespace IssueDesk

section

variable {α : Type} [DecidableEq α]

/-- Of the elements of a list that are to be kept, each is listed once, in the order in which they
first occur there. -/
structure ListsOnce (xs : List α) (keep : α → Prop) (ys : List α) : Prop where
  nodup : ys.Nodup
  mem_iff : ∀ x, x ∈ ys ↔ x ∈ xs ∧ keep x
  ordered : ys.Pairwise fun x y => xs.idxOf x < xs.idxOf y

/-- The conditions leave no choice. -/
theorem ListsOnce.unique {xs ys zs : List α} {keep : α → Prop} (hys : ListsOnce xs keep ys)
    (hzs : ListsOnce xs keep zs) : ys = zs := by
  have hperm : ys.Perm zs := by
    refine (List.perm_ext_iff_of_nodup hys.nodup hzs.nodup).2 fun x => ?_
    rw [hys.mem_iff, hzs.mem_iff]
  refine hperm.eq_of_pairwise (fun x y _ _ hlt hgt => ?_) hys.ordered hzs.ordered
  omega

theorem mem_distinct {xs : List α} {x : α} : x ∈ distinct xs ↔ x ∈ xs := by
  constructor
  · exact mem_of_mem_distinctBy
  · intro hmem
    obtain ⟨y, hy, rfl⟩ : ∃ y ∈ distinct xs, y = x := exists_mem_distinctBy hmem
    exact hy

theorem distinct_nodup (xs : List α) : (distinct xs).Nodup := distinctBy_pairwise id xs

theorem distinct_cons (x : α) (xs : List α) :
    distinct (x :: xs) = x :: (distinct xs).filter (· ≠ x) := rfl

/-- What is dropped before repetitions are does not change where the rest first occurs. -/
theorem distinct_filter_ordered (p : α → Bool) (xs : List α) :
    (distinct (xs.filter p)).Pairwise fun x y => xs.idxOf x < xs.idxOf y := by
  induction xs with
  | nil => exact List.Pairwise.nil
  | cons first rest ih =>
      -- Elements other than the first one stand one place further on.
      have hlater : ∀ ys : List α, (∀ y ∈ ys, y ≠ first) →
          ys.Pairwise (fun x y => rest.idxOf x < rest.idxOf y) →
          ys.Pairwise fun x y => (first :: rest).idxOf x < (first :: rest).idxOf y := by
        intro ys hne hys
        refine hys.imp_of_mem fun {x y} hx hy hlt => ?_
        rw [List.idxOf_cons_ne _ (hne x hx).symm, List.idxOf_cons_ne _ (hne y hy).symm]
        omega
      by_cases hkeep : p first = true
      · rw [List.filter_cons_of_pos hkeep, distinct_cons]
        have hne : ∀ y ∈ (distinct (rest.filter p)).filter (· ≠ first), y ≠ first :=
          fun y hy => of_decide_eq_true (List.mem_filter.1 hy).2
        refine List.pairwise_cons.2 ⟨fun y hy => ?_, hlater _ hne (ih.filter _)⟩
        rw [List.idxOf_cons_self, List.idxOf_cons_ne _ (hne y hy).symm]
        omega
      · rw [List.filter_cons_of_neg hkeep]
        refine hlater _ (fun y hy => ?_) ih
        rintro rfl
        exact hkeep (List.mem_filter.1 (mem_distinct.1 hy)).2

theorem distinct_filter_listsOnce (p : α → Bool) (xs : List α) :
    ListsOnce xs (p · = true) (distinct (xs.filter p)) where
  nodup := distinct_nodup _
  mem_iff x := by rw [mem_distinct, List.mem_filter]
  ordered := distinct_filter_ordered p xs

theorem distinct_listsOnce (xs : List α) : ListsOnce xs (fun _ => True) (distinct xs) := by
  have hall : xs.filter (fun _ => true) = xs := List.filter_eq_self.2 fun _ _ => rfl
  have hlists := distinct_filter_listsOnce (fun _ => true) xs
  rw [hall] at hlists
  exact ⟨hlists.nodup, fun x => (hlists.mem_iff x).trans (by simp), hlists.ordered⟩

/-- Repetitions may be dropped before or after. -/
theorem filter_distinct (p : α → Bool) (xs : List α) :
    (distinct xs).filter p = distinct (xs.filter p) := by
  have hlists := distinct_listsOnce xs
  refine ListsOnce.unique ⟨hlists.nodup.filter p, fun x => ?_, hlists.ordered.filter p⟩
    (distinct_filter_listsOnce p xs)
  rw [List.mem_filter, mem_distinct]

end

variable {β κ : Type}

/-- A list holds the elements at the chosen places of another, in their order. -/
def PickedAt (xs : List β) (chosen : Fin xs.length → Prop) (ys : List β) : Prop :=
  ∃ places : List (Fin xs.length),
    places.Pairwise (· < ·) ∧ (∀ place, place ∈ places ↔ chosen place) ∧ ys = places.map xs.get

namespace PickedAt

variable {xs ys zs : List β} {chosen chosen' : Fin xs.length → Prop}

/-- The chosen places leave no choice. -/
theorem unique (hys : PickedAt xs chosen ys) (hzs : PickedAt xs chosen zs) : ys = zs := by
  obtain ⟨places, hplaces, hmem, rfl⟩ := hys
  obtain ⟨others, hothers, hmem', rfl⟩ := hzs
  have hperm : places.Perm others := by
    refine (List.perm_ext_iff_of_nodup (hplaces.imp Fin.ne_of_lt)
      (hothers.imp Fin.ne_of_lt)).2 fun place => ?_
    rw [hmem, hmem']
  rw [hperm.eq_of_pairwise (fun _ _ _ _ hlt hgt => absurd hlt (Fin.lt_asymm hgt)) hplaces hothers]

theorem congr (h : PickedAt xs chosen ys) (hsame : ∀ place, chosen place ↔ chosen' place) :
    PickedAt xs chosen' ys := by
  obtain ⟨places, hplaces, hmem, hys⟩ := h
  exact ⟨places, hplaces, fun place => (hmem place).trans (hsame place), hys⟩

/-- A choice made later only narrows the places. -/
theorem filter (h : PickedAt xs chosen ys) (p : β → Bool) :
    PickedAt xs (fun place => chosen place ∧ p (xs.get place) = true) (ys.filter p) := by
  obtain ⟨places, hplaces, hmem, rfl⟩ := h
  refine ⟨places.filter (p ∘ xs.get), hplaces.filter _, fun place => ?_, List.filter_map⟩
  rw [List.mem_filter, hmem]
  rfl

end PickedAt

theorem distinctBy_pickedAt [DecidableEq κ] (key : β → κ) (xs : List β) :
    PickedAt xs (fun place => ∀ earlier < place, key (xs.get earlier) ≠ key (xs.get place))
      (distinctBy key xs) := by
  induction xs with
  | nil => exact ⟨[], List.Pairwise.nil, fun place => place.elim0, rfl⟩
  | cons first rest ih =>
      obtain ⟨places, hplaces, hmem, hrest⟩ := ih.filter fun x => key x ≠ key first
      -- The first place is always chosen; of the others one is if it is among the rest and its
      -- key is a new one there.
      refine ⟨0 :: places.map Fin.succ, ?_, fun place => ?_, ?_⟩
      · refine List.pairwise_cons.2 ⟨fun place hplace => ?_, ?_⟩
        · obtain ⟨other, -, rfl⟩ := List.mem_map.1 hplace
          exact Fin.succ_pos other
        · exact List.pairwise_map.2 (hplaces.imp fun hlt => Fin.succ_lt_succ_iff.2 hlt)
      · cases place using Fin.cases with
        | zero => simp
        | succ place =>
            have hlater : place.succ ∈ 0 :: places.map Fin.succ ↔ place ∈ places := by
              simp [Fin.succ_ne_zero, Fin.succ_inj]
            rw [hlater, hmem]
            constructor
            · rintro ⟨hnew, hfirst⟩ earlier hearlier
              cases earlier using Fin.cases with
              | zero => exact (of_decide_eq_true hfirst).symm
              | succ earlier => exact hnew earlier (Fin.succ_lt_succ_iff.1 hearlier)
            · intro hnew
              refine ⟨fun earlier hearlier => ?_, decide_eq_true ?_⟩
              · exact hnew earlier.succ (Fin.succ_lt_succ_iff.2 hearlier)
              · exact (hnew 0 (Fin.succ_pos place)).symm
      · rw [List.map_cons, List.map_map]
        exact congrArg (first :: ·) hrest

/-- Among elements with keys of their own, the key of one names that one. -/
theorem filter_key_eq_singleton [DecidableEq κ] {key : β → κ} {xs : List β} {x : β}
    (hkeys : (xs.map key).Nodup) (hmem : x ∈ xs) : xs.filter (key · = key x) = [x] := by
  induction xs with
  | nil => cases hmem
  | cons first rest ih =>
      obtain ⟨hfirst, hrest⟩ := List.nodup_cons.1 hkeys
      rcases List.mem_cons.1 hmem with rfl | hmem
      · have hnone : rest.filter (key · = key x) = [] := by
          refine List.filter_eq_nil_iff.2 fun y hy hsame => hfirst ?_
          rw [← of_decide_eq_true hsame]
          exact List.mem_map_of_mem hy
        rw [List.filter_cons, if_pos (decide_eq_true rfl), hnone]
      · have hother : key first ≠ key x := by
          intro hsame
          rw [hsame] at hfirst
          exact hfirst (List.mem_map_of_mem hmem)
        rw [List.filter_cons, if_neg (by simpa using hother), ih hrest hmem]

end IssueDesk
