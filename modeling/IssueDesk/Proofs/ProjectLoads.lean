import IssueDesk.Proofs.ProjectReading

/-! What loads leave behind in a picker of projects. A load clears what the loads before it have
left, so that after any run the last load alone says whether the picker is loading and what it shows
as a failure, and the options are those of the last list that was brought, or none if a load has
failed since. A load touches the selection only to choose the default project where nothing is
selected. So what a load leaves depends on the selection and on nothing else that was loaded before,
but for the toggle, which a load that brings no list leaves as it was. -/

namespace IssueDesk

namespace ProjectPicker

/-- The end of a call for a list of projects; one that was given up has none. -/
abbrev LoadEnd := Option (Except CallFailure ProjectList)

def Operation.IsLoad : Operation → Prop
  | .load _ _ => True
  | _ => False

instance : DecidablePred Operation.IsLoad
  | .load _ _ => inferInstanceAs (Decidable True)
  | .applyProjects _ | .setAllProjects _ | .select _ => inferInstanceAs (Decidable False)

/-- An operation that comes to its end. -/
def Operation.IsCompleted : Operation → Prop
  | .load _ none => False
  | _ => True

instance : DecidablePred Operation.IsCompleted
  | .load _ none => inferInstanceAs (Decidable False)
  | .load _ (some _) | .applyProjects _ | .setAllProjects _ | .select _ =>
      inferInstanceAs (Decidable True)

/-- The list of projects that an operation brings. A load that fails brings none. -/
def Operation.list? : Operation → Option ProjectList
  | .load _ (some (.ok list)) | .applyProjects list => some list
  | _ => none

/-- What is said of a load that has failed. -/
def LoadEnd.failure? : LoadEnd → Option String
  | some (.error failure) => some failure.text
  | _ => none

/-- A load chooses the default project: nothing is selected, and the list that comes has one. -/
structure TakesDefault (picker : ProjectPicker) (answer : LoadEnd) (key : String) : Prop where
  unselected : picker.selected = []
  named : ∃ list, answer = some (.ok list) ∧ list.defaultKey = some key
  nonempty : key ≠ ""

section Steps

variable (picker : ProjectPicker) (instanceId : String) (answer : LoadEnd)

theorem loading_after_load : (picker.after (.load instanceId answer)).loading = answer.isNone := by
  match answer with
  | none => rfl
  | some (.ok list) => rfl
  | some (.error failure) => rfl

theorem error_after_load :
    (picker.after (.load instanceId answer)).error = LoadEnd.failure? answer := by
  match answer with
  | none => rfl
  | some (.ok list) => rfl
  | some (.error failure) => rfl

variable {answer}

theorem after_of_not_load {operation : Operation} (h : ¬operation.IsLoad) :
    (picker.after operation).loading = picker.loading ∧
      (picker.after operation).error = picker.error := by
  cases operation with
  | load instanceId answer => exact absurd trivial h
  | _ => exact ⟨rfl, rfl⟩

variable {picker}

/-- An operation that brings no list leaves the options, or takes them away if it is a load. -/
theorem options_after {operation : Operation} (h : operation.list? = none) :
    (picker.after operation).options = if operation.IsLoad then [] else picker.options := by
  cases operation with
  | load instanceId answer =>
      have hload : (Operation.load instanceId answer).IsLoad := trivial
      rw [if_pos hload]
      match answer with
      | none => rfl
      | some (.error failure) => rfl
      | some (.ok list) => cases h
  | applyProjects list => cases h
  | _ => exact (if_neg id).symm

theorem options_after_list {operation : Operation} {list : ProjectList}
    (h : operation.list? = some list) : (picker.after operation).options = list.projects := by
  cases operation with
  | load instanceId answer =>
      match answer with
      | some (.ok brought) => exact congrArg ProjectList.projects (Option.some.inj h)
      | none => cases h
      | some (.error failure) => cases h
  | applyProjects brought => exact congrArg ProjectList.projects (Option.some.inj h)
  | _ => cases h

theorem TakesDefault.selected {key : String} (h : picker.TakesDefault answer key) :
    (picker.after (.load instanceId answer)).selected = [key] := by
  obtain ⟨list, rfl, hkey⟩ := h.named
  have hsome : nonEmpty? list.defaultKey = some key := nonEmpty?_eq_some_iff.2 ⟨hkey, h.nonempty⟩
  show picker.selectionWith list = [key]
  rw [selectionWith_eq, if_pos h.unselected, hsome, Option.toList_some]

/-- A load leaves the selection, or chooses the default project. -/
theorem selected_after_load : (picker.after (.load instanceId answer)).selected = picker.selected ∨
    ∃ key, picker.TakesDefault answer key := by
  match answer with
  | none => exact Or.inl rfl
  | some (.error failure) => exact Or.inl rfl
  | some (.ok list) =>
      show picker.selectionWith list = picker.selected ∨ _
      rw [selectionWith_eq]
      by_cases hnone : picker.selected = []
      · cases hkey : nonEmpty? list.defaultKey with
        | none =>
            left
            rw [if_pos hnone, hnone, Option.toList_none]
        | some key =>
            obtain ⟨hnamed, hnonempty⟩ := nonEmpty?_eq_some_iff.1 hkey
            exact Or.inr ⟨key, hnone, ⟨list, rfl, hnamed⟩, hnonempty⟩
      · exact Or.inl (if_neg hnone)

/-- A load does the same to pickers with the same selection, but for the toggle. -/
theorem after_load_of_selected_eq {other : ProjectPicker} (h : other.selected = picker.selected) :
    other.after (.load instanceId answer) =
      { picker.after (.load instanceId answer) with
        allProjects := (other.after (.load instanceId answer)).allProjects } := by
  obtain ⟨options, selected, loading, error, allProjects⟩ := picker
  obtain rfl : other.selected = selected := h
  match answer with
  | none => rfl
  | some (.ok list) => rfl
  | some (.error failure) => rfl

/-- A list that comes sets the toggle too. -/
theorem after_list_of_selected_eq {other : ProjectPicker} (h : other.selected = picker.selected)
    (list : ProjectList) :
    other.after (.load instanceId (some (.ok list))) =
      picker.after (.load instanceId (some (.ok list))) := by
  obtain ⟨options, selected, loading, error, allProjects⟩ := picker
  obtain rfl : other.selected = selected := h
  rfl

end Steps

section Runs

variable (picker : ProjectPicker) {earlier later : List Operation}

theorem run_append_cons (earlier : List Operation) (operation : Operation)
    (later : List Operation) :
    picker.run (earlier ++ operation :: later) =
      ((picker.run earlier).after operation).run later := by
  rw [run, List.foldl_append, List.foldl_cons]
  rfl

theorem run_of_no_load (h : ∀ operation ∈ later, ¬operation.IsLoad) :
    (picker.run later).loading = picker.loading ∧ (picker.run later).error = picker.error := by
  induction later using List.reverseRecOn with
  | nil => exact ⟨rfl, rfl⟩
  | append_singleton later operation ih =>
      have hlast := h operation (List.mem_append_right _ List.mem_cons_self)
      obtain ⟨hloading, herror⟩ := ih fun other hmem => h other (List.mem_append_left _ hmem)
      obtain ⟨hloading', herror'⟩ := (picker.run later).after_of_not_load hlast
      rw [run_concat]
      exact ⟨hloading'.trans hloading, herror'.trans herror⟩

theorem run_of_last_load {instanceId : String} {answer : LoadEnd}
    (h : ∀ operation ∈ later, ¬operation.IsLoad) :
    (picker.run (earlier ++ .load instanceId answer :: later)).loading = answer.isNone ∧
      (picker.run (earlier ++ .load instanceId answer :: later)).error =
        LoadEnd.failure? answer := by
  rw [run_append_cons]
  obtain ⟨hloading, herror⟩ :=
    ((picker.run earlier).after (.load instanceId answer)).run_of_no_load h
  exact ⟨hloading.trans (loading_after_load _ _ _), herror.trans (error_after_load _ _ _)⟩

theorem exists_last_load (operations : List Operation) :
    (∀ operation ∈ operations, ¬operation.IsLoad) ∨
      ∃ earlier instanceId answer later, operations = earlier ++ .load instanceId answer :: later ∧
        ∀ operation ∈ later, ¬operation.IsLoad := by
  induction operations with
  | nil => exact Or.inl nofun
  | cons operation rest ih =>
      rcases ih with hnone | ⟨earlier, instanceId, answer, later, rfl, hlater⟩
      · cases operation with
        | load instanceId answer => exact Or.inr ⟨[], instanceId, answer, rest, rfl, hnone⟩
        | _ => exact Or.inl (List.forall_mem_cons.2 ⟨id, hnone⟩)
      · exact Or.inr ⟨operation :: earlier, instanceId, answer, later, rfl, hlater⟩

variable {picker}

theorem loading_iff (hidle : picker.loading = false) (operations : List Operation) :
    (picker.run operations).loading = true ↔
      ∃ earlier instanceId later, operations = earlier ++ .load instanceId none :: later ∧
        ∀ operation ∈ later, ¬operation.IsLoad := by
  constructor
  · intro hloading
    rcases exists_last_load operations with
      hnone | ⟨earlier, instanceId, answer, later, rfl, hlater⟩
    · rw [(picker.run_of_no_load hnone).1, hidle] at hloading
      cases hloading
    · rw [(picker.run_of_last_load hlater).1, Option.isNone_iff_eq_none] at hloading
      exact ⟨earlier, instanceId, later, by rw [hloading], hlater⟩
  · rintro ⟨earlier, instanceId, later, rfl, hlater⟩
    exact (picker.run_of_last_load hlater).1

theorem error_eq_some_iff (hclear : picker.error = none) (operations : List Operation)
    (text : String) :
    (picker.run operations).error = some text ↔
      ∃ earlier instanceId failure later,
        operations = earlier ++ .load instanceId (some (.error failure)) :: later ∧
        (∀ operation ∈ later, ¬operation.IsLoad) ∧ failure.text = text := by
  constructor
  · intro herror
    rcases exists_last_load operations with
      hnone | ⟨earlier, instanceId, answer, later, rfl, hlater⟩
    · rw [(picker.run_of_no_load hnone).2, hclear] at herror
      cases herror
    · rw [(picker.run_of_last_load hlater).2] at herror
      match answer, herror with
      | some (.error failure), herror =>
          exact ⟨earlier, instanceId, failure, later, rfl, hlater, Option.some.inj herror⟩
      | none, herror => cases herror
      | some (.ok list), herror => cases herror
  · rintro ⟨earlier, instanceId, failure, later, rfl, hlater, rfl⟩
    exact (picker.run_of_last_load hlater).2

/-- Operations that bring no list leave the options, or take them away if a load is among them. -/
theorem run_options (h : ∀ operation ∈ later, operation.list? = none) :
    (picker.run later).options =
      if ∃ operation ∈ later, operation.IsLoad then [] else picker.options := by
  induction later using List.reverseRecOn with
  | nil => simp [run]
  | append_singleton later operation ih =>
      have hlast := h operation (List.mem_append_right _ List.mem_cons_self)
      rw [run_concat, options_after hlast,
        ih fun other hmem => h other (List.mem_append_left _ hmem)]
      by_cases hload : operation.IsLoad
      · simp [hload]
      · simp [hload, or_and_right, exists_or]

theorem run_options_of_list {operation : Operation} {list : ProjectList}
    (hlist : operation.list? = some list) (h : ∀ other ∈ later, other.list? = none) :
    (picker.run (earlier ++ operation :: later)).options =
      if ∃ other ∈ later, other.IsLoad then [] else list.projects := by
  rw [run_append_cons, run_options h, options_after_list hlist]

end Runs

/-- A picker after any run. It is loading only if the last load was given up, so not if each load
has come to its end. It shows a failure if and only if the last load has failed, with all reasons of
that failure. Its options are those of the last list that a load or the host has brought, or none if
a load has come after that list, or if no list has come at all. A load changes the selection if and
only if it succeeds, nothing is selected and the list has a default project that is not empty, and
then that project is selected. Pickers with the same selection are the same after the same load but
for the toggle, and after one that succeeds they are the same as a whole. -/
theorem loads_settle_the_picker (selected : List String) (operations : List Operation) :
    let picker := (start selected).run operations
    ((∀ operation ∈ operations, operation.IsCompleted) → picker.loading = false) ∧
    (picker.loading = true ↔
      ∃ earlier instanceId later, operations = earlier ++ .load instanceId none :: later ∧
        ∀ operation ∈ later, ¬operation.IsLoad) ∧
    (∀ text, picker.error = some text ↔
      ∃ earlier instanceId failure later,
        operations = earlier ++ .load instanceId (some (.error failure)) :: later ∧
        (∀ operation ∈ later, ¬operation.IsLoad) ∧ ": ".intercalate failure.reasons = text) ∧
    (∀ earlier operation list later, operations = earlier ++ operation :: later →
      operation.list? = some list → (∀ other ∈ later, other.list? = none) →
        picker.options = if ∃ other ∈ later, other.IsLoad then [] else list.projects) ∧
    ((∀ operation ∈ operations, operation.list? = none) → picker.options = []) ∧
    (∀ instanceId answer,
      ((picker.after (.load instanceId answer)).selected ≠ picker.selected ↔
        ∃ key, picker.TakesDefault answer key) ∧
      ∀ key, picker.TakesDefault answer key →
        (picker.after (.load instanceId answer)).selected = [key]) ∧
    ∀ other : ProjectPicker, other.selected = picker.selected → ∀ instanceId answer,
      let here := picker.after (.load instanceId answer)
      let there := other.after (.load instanceId answer)
      there = { here with allProjects := there.allProjects } ∧
        ((∃ list, answer = some (.ok list)) → there = here) := by
  intro picker
  have hidle : (start selected).loading = false := rfl
  have hloading := loading_iff hidle operations
  refine ⟨fun hcompleted => ?_, hloading, error_eq_some_iff rfl operations, ?_, fun hnone => ?_,
    fun instanceId answer => ⟨⟨?_, ?_⟩, fun key hkey => hkey.selected instanceId⟩,
    fun other hother instanceId answer => ⟨after_load_of_selected_eq instanceId hother, ?_⟩⟩
  · refine Bool.eq_false_iff.2 fun htrue => ?_
    obtain ⟨earlier, instanceId, later, rfl, -⟩ := hloading.1 htrue
    exact hcompleted (.load instanceId none) (List.mem_append_right _ List.mem_cons_self)
  · rintro earlier operation list later rfl hlist hlater
    exact run_options_of_list hlist hlater
  · exact (run_options hnone).trans (ite_self _)
  · intro hchanged
    exact (selected_after_load instanceId).resolve_left hchanged
  · rintro ⟨key, hkey⟩
    rw [hkey.selected instanceId, hkey.unselected]
    exact List.cons_ne_nil _ _
  · rintro ⟨list, rfl⟩
    exact after_list_of_selected_eq instanceId hother list

/-- A list is loaded, all is selected and then nothing, and the next load fails. -/
def failedReload : List Operation :=
  [.load "inst" (some (.ok ⟨samplePicker.options, some "KT"⟩)), .setAllProjects true, .select [],
    .load "other" (some (.error ⟨["request failed", "timed out"]⟩)), .select []]

theorem failed_reload_leaves_no_options :
    let picker := (start ["OPS"]).run failedReload
    let again : ProjectList := ⟨[⟨"OPS", "Operations", none⟩], some "OPS"⟩
    (∀ operation ∈ failedReload, operation.IsCompleted) ∧ picker.loading = false ∧
      picker.error = some "request failed: timed out" ∧ picker.options = [] ∧
      ((start ["OPS"]).run (failedReload.take 3)).options = samplePicker.options ∧
      picker.TakesDefault (some (.ok again)) "OPS" ∧
      (picker.after (.load "other" (some (.ok again)))).selected = ["OPS"] ∧
      (start []).after (.load "other" (some (.ok again))) =
        picker.after (.load "other" (some (.ok again))) := by
  intro picker again
  have hcompleted : ∀ operation ∈ failedReload, operation.IsCompleted := by decide
  have hdefault : picker.TakesDefault (some (.ok again)) "OPS" :=
    ⟨by decide, ⟨again, rfl, rfl⟩, by decide⟩
  obtain ⟨hidle, -, herror, hoptions, -, hselection, hsame⟩ :=
    loads_settle_the_picker ["OPS"] failedReload
  obtain ⟨-, -, -, hlisted, -⟩ := loads_settle_the_picker ["OPS"] (failedReload.take 3)
  refine ⟨hcompleted, hidle hcompleted, (herror _).2 ?_, ?_, ?_, hdefault,
    (hselection "other" _).2 _ hdefault, (hsame (start []) (by decide) "other" _).2 ⟨again, rfl⟩⟩
  · exact ⟨failedReload.take 3, "other", _, [.select []], rfl, by decide, by decide⟩
  · exact hoptions [] _ _ (failedReload.drop 1) rfl rfl (by decide)
  · exact hlisted [] _ _ [.setAllProjects true, .select []] rfl rfl (by decide)

end ProjectPicker

end IssueDesk
