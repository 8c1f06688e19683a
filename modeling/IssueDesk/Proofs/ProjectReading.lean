import IssueDesk.Proofs.FirstOccurrences
import IssueDesk.Proofs.ProjectToggle
import Mathlib.Data.List.Perm.Subperm

/-! How the toggle for all projects is read when a list of projects comes. Only the lengths of the
selection and of the list are compared, so what counts is what each has beside the other: the keys
of the selection that name no project or one that is named already, and the projects that are not
selected or stand in the list again. If there are as many of the one as of the other the toggle is
on, whichever projects they are. It says what is selected whenever the selection names projects of
the list, each once, and the list has each project once; a key of another instance is enough to make
it say too much or too little (`toggle_misreads_strays`). -/

namespace IssueDesk

variable {α : Type} [DecidableEq α]

/-- The elements of a list that another has too, each once. -/
def shared (xs ys : List α) : List α := distinct (xs.filter (· ∈ ys))

/-- What is left of a list when each element that another has too has been taken out of it once. -/
def unshared (xs ys : List α) : List α := xs.diff (shared xs ys)

theorem mem_shared {xs ys : List α} {x : α} : x ∈ shared xs ys ↔ x ∈ xs ∧ x ∈ ys := by
  rw [shared, mem_distinct, List.mem_filter, decide_eq_true_eq]

theorem shared_nodup (xs ys : List α) : (shared xs ys).Nodup := distinct_nodup _

theorem shared_comm (xs ys : List α) : (shared xs ys).Perm (shared ys xs) := by
  refine (List.perm_ext_iff_of_nodup (shared_nodup xs ys) (shared_nodup ys xs)).2 fun x => ?_
  rw [mem_shared, mem_shared, and_comm]

theorem shared_append_unshared (xs ys : List α) : (shared xs ys ++ unshared xs ys).Perm xs := by
  refine List.subperm_append_diff_self_of_count_le fun x hx => ?_
  calc (shared xs ys).count x
      ≤ 1 := List.nodup_iff_count_le_one.1 (shared_nodup xs ys) x
    _ ≤ xs.count x := List.one_le_count_iff.2 (mem_shared.1 hx).1

/-- Two lists are equally long if each has as much beside the other. -/
theorem length_eq_iff_unshared (xs ys : List α) :
    xs.length = ys.length ↔ (unshared xs ys).length = (unshared ys xs).length := by
  have hxs := (shared_append_unshared xs ys).length_eq
  have hys := (shared_append_unshared ys xs).length_eq
  have hshared := (shared_comm xs ys).length_eq
  rw [List.length_append] at hxs hys
  omega

/-- A list has nothing beside another if it has only elements of it, each once. -/
theorem unshared_eq_nil_iff {xs ys : List α} : unshared xs ys = [] ↔ xs.Nodup ∧ xs ⊆ ys := by
  have hperm := shared_append_unshared xs ys
  constructor
  · intro hnil
    rw [hnil, List.append_nil] at hperm
    exact ⟨hperm.nodup_iff.1 (shared_nodup xs ys),
      fun x hx => (mem_shared.1 (hperm.mem_iff.2 hx)).2⟩
  · rintro ⟨hnodup, hsubset⟩
    have hall : (shared xs ys).Perm xs := by
      refine (List.perm_ext_iff_of_nodup (shared_nodup xs ys) hnodup).2 fun x => ?_
      rw [mem_shared]
      exact and_iff_left_of_imp fun hx => hsubset hx
    have hlength := hperm.length_eq
    rw [List.length_append, hall.length_eq] at hlength
    exact List.length_eq_zero_iff.1 (by omega)

namespace ProjectPicker

/-- The keys of the projects of a list. -/
def keys (options : List SelectOption) : List String := options.map (·.value)

theorem covered_iff {options : List SelectOption} {projects : List String} :
    Covered options projects ↔ keys options ≠ [] ∧ keys options ⊆ projects := by
  unfold Covered keys
  rw [Ne, Ne, List.map_eq_nil_iff]
  refine and_congr_right fun _ => ?_
  exact List.forall_mem_map.symm

/-- An empty selection becomes the default project. -/
theorem selectionWith_eq (picker : ProjectPicker) (list : ProjectList) :
    picker.selectionWith list =
      if picker.selected = [] then (nonEmpty? list.defaultKey).toList else picker.selected := by
  unfold selectionWith
  cases picker.selected with
  | nil => cases nonEmpty? list.defaultKey <;> rfl
  | cons project projects => rfl

section

variable (picker : ProjectPicker) (list : ProjectList)

theorem allProjects_applyProjects :
    (picker.applyProjects list).allProjects = true ↔
      picker.selectionWith list ≠ [] ∧
        (picker.selectionWith list).length = (keys list.projects).length := by
  simp [applyProjects, keys]

/-- Where there are projects, the toggle is in step if the selections that have as much beside the
list as the list has beside them are those of all projects. -/
theorem inStep_applyProjects_iff :
    (picker.applyProjects list).InStep ↔ keys list.projects = [] ∨
      ((unshared (picker.selectionWith list) (keys list.projects)).length =
          (unshared (keys list.projects) (picker.selectionWith list)).length ↔
        keys list.projects ⊆ picker.selectionWith list) := by
  rw [InStep, allProjects_applyProjects, covered_iff]
  show (_ ↔ keys list.projects ≠ [] ∧ keys list.projects ⊆ picker.selectionWith list) ↔ _
  by_cases hnone : keys list.projects = []
  · refine iff_of_true (iff_of_false ?_ fun hcovered => hcovered.1 hnone) (Or.inl hnone)
    rintro ⟨hsome, hlength⟩
    rw [hnone] at hlength
    exact hsome (List.length_eq_zero_iff.1 hlength)
  · have hsome : (picker.selectionWith list).length = (keys list.projects).length →
        picker.selectionWith list ≠ [] := by
      intro hlength hempty
      rw [hempty] at hlength
      exact hnone (List.length_eq_zero_iff.1 hlength.symm)
    rw [or_iff_right hnone, and_iff_right hnone, and_iff_right_of_imp hsome,
      length_eq_iff_unshared]

/-- With a list that has each project once the toggle is in step if the selection has nothing beside
the list where it has all of it, and elsewhere not as much as it leaves. -/
theorem inStep_applyProjects_iff_of_nodup (hlisted : (keys list.projects).Nodup) :
    let strays := unshared (picker.selectionWith list) (keys list.projects)
    let left := unshared (keys list.projects) (picker.selectionWith list)
    (picker.applyProjects list).InStep ↔
      (left = [] → list.projects ≠ [] → strays = []) ∧
        (left ≠ [] → strays.length ≠ left.length) := by
  intro strays left
  have hleft : left = [] ↔ keys list.projects ⊆ picker.selectionWith list :=
    unshared_eq_nil_iff.trans (and_iff_right hlisted)
  have hprojects : keys list.projects = [] ↔ list.projects = [] := List.map_eq_nil_iff
  rw [inStep_applyProjects_iff, ← hleft, hprojects]
  show (_ ∨ (strays.length = left.length ↔ left = [])) ↔ _
  by_cases hall : left = []
  · have hempty : strays.length = left.length ↔ strays = [] := by
      rw [hall, List.length_nil, List.length_eq_zero_iff]
    rw [hempty]
    tauto
  · have hsome : list.projects ≠ [] := by
      intro hnone
      refine hall (hleft.2 ?_)
      rw [hprojects.2 hnone]
      exact List.nil_subset _
    tauto

/-- A selection of projects of the list, each once, puts the toggle on only if it has them all. -/
theorem covered_of_allProjects (hnodup : (picker.selectionWith list).Nodup)
    (hsubset : picker.selectionWith list ⊆ keys list.projects)
    (hon : (picker.applyProjects list).allProjects = true) :
    Covered list.projects (picker.selectionWith list) := by
  obtain ⟨hsome, hlength⟩ := (picker.allProjects_applyProjects list).1 hon
  have hstrays : unshared (picker.selectionWith list) (keys list.projects) = [] :=
    unshared_eq_nil_iff.2 ⟨hnodup, hsubset⟩
  have hleft := (length_eq_iff_unshared _ _).1 hlength
  rw [hstrays] at hleft
  refine covered_iff.2 ⟨fun hnone => hsome ?_, ?_⟩
  · rw [hnone] at hlength
    exact List.length_eq_zero_iff.1 hlength
  · exact (unshared_eq_nil_iff.1 (List.length_eq_zero_iff.1 hleft.symm)).2

/-- After a list of projects has come, the toggle says what is selected if and only if there is no
project, or else what the selection has beside the list is as much as the list has beside the
selection just if all projects are selected. If the list has each project once, that is: nothing
beside the list where all of it is selected, and not as much as is left of it elsewhere. A selection
of projects of the list, each once, never puts the toggle on wrongly, and if the list has each
project once too, the toggle is right. -/
theorem toggle_is_read_iff :
    let after := picker.applyProjects list
    let listed := keys after.options
    let strays := unshared after.selected listed
    let left := unshared listed after.selected
    after.options = list.projects ∧
    after.selected =
      (if picker.selected = [] then (nonEmpty? list.defaultKey).toList else picker.selected) ∧
    (after.InStep ↔ listed = [] ∨ (strays.length = left.length ↔ listed ⊆ after.selected)) ∧
    (listed.Nodup → (after.InStep ↔
      (left = [] → after.options ≠ [] → strays = []) ∧
        (left ≠ [] → strays.length ≠ left.length))) ∧
    (after.selected.Nodup → after.selected ⊆ listed →
      (after.allProjects = true → Covered after.options after.selected) ∧
        (listed.Nodup → after.InStep)) := by
  intro after listed strays left
  have honce : listed.Nodup → (after.InStep ↔ (left = [] → after.options ≠ [] → strays = []) ∧
      (left ≠ [] → strays.length ≠ left.length)) :=
    picker.inStep_applyProjects_iff_of_nodup list
  refine ⟨rfl, picker.selectionWith_eq list, picker.inStep_applyProjects_iff list, honce,
    fun hnodup hsubset => ⟨picker.covered_of_allProjects list hnodup hsubset, fun hlisted => ?_⟩⟩
  have hstrays : strays = [] := unshared_eq_nil_iff.2 ⟨hnodup, hsubset⟩
  refine (honce hlisted).2 ⟨fun _ _ => hstrays, fun hleft hlength => hleft ?_⟩
  rw [hstrays] at hlength
  exact List.length_eq_zero_iff.1 hlength.symm

end

/-- Two projects, and no default. -/
def twoProjects : ProjectList := ⟨samplePicker.options, none⟩

theorem selections_of_two_are_read :
    (keys twoProjects.projects).Nodup ∧ (["OPS", "KT"] : List String).Nodup ∧
      ["OPS", "KT"] ⊆ keys twoProjects.projects ∧
      ((start ["OPS", "KT"]).applyProjects twoProjects).InStep ∧
      Covered twoProjects.projects ["OPS", "KT"] ∧
      unshared ["KT", "OLD", "OLDER"] (keys twoProjects.projects) = ["OLD", "OLDER"] ∧
      unshared (keys twoProjects.projects) ["KT", "OLD", "OLDER"] = ["OPS"] ∧
      ((start ["KT", "OLD", "OLDER"]).applyProjects twoProjects).InStep := by
  have hlisted : (keys twoProjects.projects).Nodup := by decide
  have hnodup : (["OPS", "KT"] : List String).Nodup := by decide
  have hsubset : ["OPS", "KT"] ⊆ keys twoProjects.projects := by decide
  obtain ⟨-, -, -, -, hright⟩ := toggle_is_read_iff (start ["OPS", "KT"]) twoProjects
  obtain ⟨-, -, -, hiff, -⟩ := toggle_is_read_iff (start ["KT", "OLD", "OLDER"]) twoProjects
  obtain ⟨hcovered, hinstep⟩ := hright hnodup hsubset
  exact ⟨hlisted, hnodup, hsubset, hinstep hlisted, hcovered (by decide), by decide, by decide,
    (hiff hlisted).2 (by decide)⟩

/-- A key of another instance stands in for a project that is not selected, and so does a key that
stands twice, or a default project that is not in the list; and beside all projects it makes their
selection look like another. -/
theorem toggle_misreads_strays :
    (¬∀ (picker : ProjectPicker) (list : ProjectList), (picker.applyProjects list).InStep) ∧
    ((start ["KT", "OLD"]).applyProjects twoProjects).allProjects = true ∧
    ¬Covered twoProjects.projects ["KT", "OLD"] ∧
    ((start ["KT", "KT"]).applyProjects twoProjects).allProjects = true ∧
    ¬Covered twoProjects.projects ["KT", "KT"] ∧
    ((start []).applyProjects ⟨samplePicker.options.take 1, some "OLD"⟩).allProjects = true ∧
    ¬Covered (samplePicker.options.take 1) ["OLD"] ∧
    ((start ["KT", "OPS", "OLD"]).applyProjects twoProjects).allProjects = false ∧
    Covered twoProjects.projects ["KT", "OPS", "OLD"] := by
  refine ⟨fun h => ?_, by decide, by decide, by decide, by decide, by decide, by decide, by decide,
    by decide⟩
  exact absurd (h (start ["KT", "OLD"]) twoProjects) (by decide)

end ProjectPicker

end IssueDesk
