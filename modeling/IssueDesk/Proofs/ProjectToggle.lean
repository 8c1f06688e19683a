import IssueDesk.Picker.ProjectPicker
import Mathlib.Data.List.Induction
import Mathlib.Data.List.Infix

/-! Whether the toggle for all projects says what is selected. A list of projects that is shown sets
it; after that only the host does. A selection, and a load that brings no list, leave it as it is:
so it stays in step with the selection just if each of them happens to agree with it (`Suits`), and
it can be on, and hide the list, while nothing is selected (`toggle_outlasts_selection`). -/

namespace IssueDesk

namespace ProjectPicker

/-- The picker after an operation. -/
def after (picker : ProjectPicker) (operation : Operation) : ProjectPicker :=
  (picker.perform operation).1

/-- The picker after operations, first to last. -/
def run (picker : ProjectPicker) (operations : List Operation) : ProjectPicker :=
  operations.foldl after picker

theorem run_concat (picker : ProjectPicker) (operations : List Operation) (operation : Operation) :
    picker.run (operations ++ [operation]) = (picker.run operations).after operation :=
  List.foldl_append

/-- There are projects, and every one of them is among those given. -/
def Covered (options : List SelectOption) (projects : List String) : Prop :=
  options ≠ [] ∧ ∀ option ∈ options, option.value ∈ projects

instance (options : List SelectOption) (projects : List String) :
    Decidable (Covered options projects) :=
  inferInstanceAs (Decidable (_ ∧ _))

/-- The toggle is on just if there are projects and all of them are selected. -/
def InStep (picker : ProjectPicker) : Prop :=
  picker.allProjects = true ↔ Covered picker.options picker.selected

instance (picker : ProjectPicker) : Decidable picker.InStep :=
  inferInstanceAs (Decidable (_ ↔ _))

/-- An operation that shows no new list of projects. A load that fails is one of these. -/
def Operation.BringsNoList : Operation → Prop
  | .load _ (some (.ok _)) | .applyProjects _ => False
  | .load _ _ | .setAllProjects _ | .select _ => True

instance : (operation : Operation) → Decidable operation.BringsNoList
  | .load _ (some (.ok _)) | .applyProjects _ => inferInstanceAs (Decidable False)
  | .load _ none | .load _ (some (.error _)) | .setAllProjects _ | .select _ =>
      inferInstanceAs (Decidable True)

/-- What the host sets the toggle to. -/
def Operation.setting? : Operation → Option Bool
  | .setAllProjects checked => some checked
  | _ => none

/-- An operation brings no new list of projects, and what is selected after it agrees with the toggle
as it is then. A load without a list takes the old one away, so the toggle has to be off. -/
def Suits (picker : ProjectPicker) : Operation → Prop
  | .select projects => picker.allProjects = true ↔ Covered picker.options projects
  | .setAllProjects checked => checked = true → picker.options ≠ []
  | .load _ (some (.ok _)) | .applyProjects _ => False
  | .load _ _ => picker.allProjects = false

theorem not_covered_nil (projects : List String) : ¬Covered [] projects := fun h => h.1 rfl

theorem covered_values_iff (options : List SelectOption) :
    Covered options (options.map (·.value)) ↔ options ≠ [] := by
  refine and_iff_left ?_
  intro option hmem
  exact List.mem_map_of_mem hmem

theorem not_covered_none (options : List SelectOption) : ¬Covered options [] := by
  rintro ⟨hsome, hall⟩
  obtain ⟨option, hmem⟩ := List.exists_mem_of_ne_nil options hsome
  exact absurd (hall option hmem) List.not_mem_nil

/-- With no list the toggle is in step just if it is off. -/
theorem inStep_of_no_options {picker : ProjectPicker} (h : picker.options = []) :
    picker.InStep ↔ picker.allProjects = false := by
  have hnone : ¬Covered picker.options picker.selected := h ▸ not_covered_nil picker.selected
  rw [InStep, iff_false_right hnone, Bool.not_eq_true]

/-- An operation without a new list leaves the toggle in step just if it suits the toggle, whether
or not it was in step before. -/
theorem inStep_after_iff {picker : ProjectPicker} {operation : Operation}
    (h : operation.BringsNoList) : (picker.after operation).InStep ↔ picker.Suits operation := by
  cases operation with
  | select projects => exact Iff.rfl
  | setAllProjects checked =>
      cases checked with
      | false =>
          refine iff_of_true ?_ nofun
          exact iff_of_false Bool.false_ne_true (not_covered_none picker.options)
      | true =>
          have hcovered := covered_values_iff picker.options
          show (true = true ↔ Covered picker.options (picker.options.map (·.value))) ↔
            (true = true → picker.options ≠ [])
          rw [hcovered]
          tauto
  | load instanceId answer =>
      match answer with
      | none => exact inStep_of_no_options rfl
      | some (.error failure) => exact inStep_of_no_options rfl
      | some (.ok list) => exact h.elim
  | applyProjects list => exact h.elim

/-- An operation without a new list moves the toggle only if the host sets it. -/
theorem allProjects_after {picker : ProjectPicker} {operation : Operation}
    (h : operation.BringsNoList) :
    (picker.after operation).allProjects = operation.setting?.getD picker.allProjects := by
  cases operation with
  | load instanceId answer =>
      match answer with
      | none => rfl
      | some (.error failure) => rfl
      | some (.ok list) => exact h.elim
  | applyProjects list => exact h.elim
  | _ => rfl

theorem run_allProjects {picker : ProjectPicker} {operations : List Operation}
    (h : ∀ operation ∈ operations, operation.BringsNoList) :
    (picker.run operations).allProjects =
      (operations.filterMap Operation.setting?).getLast?.getD picker.allProjects := by
  induction operations using List.reverseRecOn with
  | nil => rfl
  | append_singleton operations operation ih =>
      have hlast := h operation (List.mem_append_right _ List.mem_cons_self)
      rw [run_concat, allProjects_after hlast, List.filterMap_append,
        ih fun earlier hmem => h earlier (List.mem_append_left _ hmem)]
      cases hsetting : operation.setting? with
      | none => simp [hsetting]
      | some checked => simp [hsetting]

/-- A run without a new list keeps the toggle in step from beginning to end if and only if every
operation in it suits the toggle. The toggle is what the host last set it to, whatever has been
selected or loaded since; and wherever it is in step, the list is hidden just if all projects are
selected. -/
theorem toggle_in_step_iff_suited {picker : ProjectPicker} {operations : List Operation}
    (hstart : picker.InStep) (hlists : ∀ operation ∈ operations, operation.BringsNoList) :
    ((∀ earlier, earlier <+: operations → (picker.run earlier).InStep) ↔
      ∀ earlier operation, earlier ++ [operation] <+: operations →
        (picker.run earlier).Suits operation) ∧
    (picker.run operations).allProjects =
      (operations.filterMap Operation.setting?).getLast?.getD picker.allProjects ∧
    ∀ earlier, earlier <+: operations → (picker.run earlier).InStep →
      ((picker.run earlier).isSelectorVisible = false ↔
        Covered (picker.run earlier).options (picker.run earlier).selected) := by
  have hstep : ∀ earlier operation, earlier ++ [operation] <+: operations →
      ((picker.run (earlier ++ [operation])).InStep ↔
        (picker.run earlier).Suits operation) := by
    intro earlier operation hpart
    have hmem : operation ∈ operations :=
      hpart.subset (List.mem_append_right _ List.mem_cons_self)
    rw [run_concat]
    exact inStep_after_iff (hlists operation hmem)
  refine ⟨⟨fun hkept earlier operation hpart => ?_, fun hsuits earlier hpart => ?_⟩,
    run_allProjects hlists, fun earlier hpart hinstep => ?_⟩
  · exact (hstep earlier operation hpart).1 (hkept _ hpart)
  · cases List.eq_nil_or_concat' earlier with
    | inl hnil =>
        rw [hnil]
        exact hstart
    | inr hlast =>
        obtain ⟨before, operation, rfl⟩ := hlast
        exact (hstep before operation hpart).2 (hsuits before operation hpart)
  · rw [isSelectorVisible, Bool.not_eq_false']
    exact hinstep

/-- Two projects, one of which is selected. -/
def samplePicker : ProjectPicker where
  options := [⟨"KT", "Kanban Team", none⟩, ⟨"OPS", "Operations", none⟩]
  selected := ["KT"]

/-- The toggle is switched on, all projects are selected again in another order, it is switched off,
one project is selected, and a load fails. -/
def suitedOperations : List Operation :=
  [.setAllProjects true, .select ["OPS", "KT"], .setAllProjects false, .select ["KT"],
    .load "inst" (some (.error ⟨["no answer"]⟩))]

theorem suited_operations_keep_step :
    samplePicker.InStep ∧ (∀ operation ∈ suitedOperations, operation.BringsNoList) ∧
      (∀ earlier operation, earlier ++ [operation] <+: suitedOperations →
        (samplePicker.run earlier).Suits operation) ∧
      (samplePicker.run suitedOperations).allProjects = false ∧
      (samplePicker.run (suitedOperations.take 2)).isSelectorVisible = false := by
  have hstart : samplePicker.InStep := by decide
  have hlists : ∀ operation ∈ suitedOperations, operation.BringsNoList := by decide
  have hall : ∀ earlier ∈ suitedOperations.inits, (samplePicker.run earlier).InStep := by decide
  have hkept : ∀ earlier, earlier <+: suitedOperations → (samplePicker.run earlier).InStep :=
    fun earlier hpart => hall earlier ((List.mem_inits _ _).2 hpart)
  obtain ⟨hiff, hlast, hhidden⟩ := toggle_in_step_iff_suited hstart hlists
  have hpart : suitedOperations.take 2 <+: suitedOperations := List.take_prefix _ _
  exact ⟨hstart, hlists, hiff.1 hkept, hlast.trans (by decide),
    (hhidden _ hpart (hkept _ hpart)).2 (by decide)⟩

/-- A selection, a toggle without projects and a load that fails each leave the toggle and the
selection apart, and then the list is hidden although not every project is selected. -/
theorem toggle_outlasts_selection :
    (¬∀ (picker : ProjectPicker) (projects : List String), picker.InStep →
      (picker.after (.select projects)).InStep) ∧
    (¬∀ (picker : ProjectPicker) (checked : Bool), picker.InStep →
      (picker.after (.setAllProjects checked)).InStep) ∧
    (¬∀ (picker : ProjectPicker) (instanceId : String) (failure : CallFailure), picker.InStep →
      (picker.after (.load instanceId (some (.error failure)))).InStep) ∧
    ¬∀ (picker : ProjectPicker) (operations : List Operation), picker.InStep →
      (∀ operation ∈ operations, operation.BringsNoList) →
      (picker.run operations).isSelectorVisible = false →
        ∀ option ∈ (picker.run operations).options,
          option.value ∈ (picker.run operations).selected := by
  have hall : (samplePicker.after (.setAllProjects true)).InStep := by decide
  refine ⟨fun h => ?_, fun h => ?_, fun h => ?_, fun h => ?_⟩
  · exact absurd (h _ ["KT"] hall) (by decide)
  · exact absurd (h (start []) true (by decide)) (by decide)
  · exact absurd (h _ "inst" ⟨["no answer"]⟩ hall) (by decide)
  · exact absurd (h samplePicker [.setAllProjects true, .select ["KT"]] (by decide) (by decide)
      (by decide)) (by decide)

end ProjectPicker

end IssueDesk
