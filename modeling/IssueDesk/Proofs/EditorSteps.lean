import IssueDesk.Proofs.FilterConflicts
import IssueDesk.Subscription.Editor

/-! What an operation on the form can come to (`Effect`), and runs of operations. An operation does
not concern the filters, or it is a change of issue types that is refused or taken over, or it sets
the field filters, or what it sets leaves no field filter and no issue type that was not there
before. Whatever sets filters also settles whether a refusal is shown; nothing else does. What is
shown of runs elsewhere follows from these cases. -/

namespace IssueDesk

/-- A change is refused with a message exactly if the report of it is not empty: an entry of a
report always names an issue type. -/
theorem IssueMetadata.message?_conflicts (metadata : IssueMetadata)
    (selected previous new : List String) :
    (metadata.conflicts selected previous new).message? = none ↔
      (metadata.conflicts selected previous new).isEmpty = true := by
  have hentry : ∀ conflict ∈ (metadata.conflicts selected previous new).conflicts,
      ∃ key ∈ selected, metadata.IsConflict (addedIds previous new) key conflict :=
    fun _ => mem_conflicts.1
  unfold ConflictReport.message? ConflictReport.firstIssueType? ConflictReport.isEmpty
  cases hconflicts : (metadata.conflicts selected previous new).conflicts with
  | nil => simp
  | cons first rest =>
      obtain ⟨key, -, hconflict⟩ := hentry first (hconflicts ▸ List.mem_cons_self)
      obtain ⟨issueType, others, htypes⟩ := List.exists_cons_of_ne_nil hconflict.nonempty
      simp [htypes]

namespace Editor

/-- The form after an operation. -/
def after (editor : Editor) (operation : Operation) : Editor := (editor.perform operation).1

/-- The form after operations, first to last. -/
def run (editor : Editor) (operations : List Operation) : Editor := operations.foldl after editor

theorem run_append (editor : Editor) (operations later : List Operation) :
    editor.run (operations ++ later) = (editor.run operations).run later :=
  List.foldl_append

/-- A form as it is opened, for a new subscription or for one that is stored. -/
inductive Opened : Editor → Prop where
  | create (channelId : String) : Opened (.create channelId)
  | edit (subscription : Subscription) : Opened (.edit subscription)

theorem Opened.conflictError {editor : Editor} (h : editor.Opened) :
    editor.conflictError = none := by
  cases h <;> rfl

/-- An operation that sets filters, or would if it were not refused. The instance that is chosen
already is not chosen again. -/
def TouchesFilters (editor : Editor) : Operation → Prop
  | .changeInstance instanceId => instanceId ≠ editor.instanceId
  | .changeProjects _ | .changeIssueTypes _ | .changeEvents _ | .changeSelfRoles _
  | .changeFields _ => True
  | .setName _ | .setMetadata _ | .submit | .submitFinished _ => False

instance (editor : Editor) : (operation : Operation) → Decidable (editor.TouchesFilters operation)
  | .changeInstance instanceId => inferInstanceAs (Decidable (instanceId ≠ editor.instanceId))
  | .changeProjects _ | .changeIssueTypes _ | .changeEvents _ | .changeSelfRoles _
  | .changeFields _ => inferInstanceAs (Decidable True)
  | .setName _ | .setMetadata _ | .submit | .submitFinished _ => inferInstanceAs (Decidable False)

/-- A change of issue types is accepted if nothing is reported against it. -/
def Accepts (editor : Editor) (issueTypes : List String) : Prop :=
  (editor.conflictsWith issueTypes).isEmpty = true

instance (editor : Editor) (issueTypes : List String) : Decidable (editor.Accepts issueTypes) :=
  inferInstanceAs (Decidable (_ = true))

theorem message?_eq_none_iff {editor : Editor} {issueTypes : List String} :
    (editor.conflictsWith issueTypes).message? = none ↔ editor.Accepts issueTypes := by
  unfold Accepts conflictsWith
  cases editor.metadata with
  | none => exact ⟨fun _ => rfl, fun _ => rfl⟩
  | some metadata => exact metadata.message?_conflicts _ _ _

theorem changeIssueTypes_of_accepts {editor : Editor} {issueTypes : List String}
    (h : editor.Accepts issueTypes) :
    editor.changeIssueTypes issueTypes =
      { editor with filters := { editor.filters with issueTypes }, conflictError := none } := by
  unfold changeIssueTypes
  rw [message?_eq_none_iff.2 h]

theorem changeIssueTypes_of_refused {editor : Editor} {issueTypes : List String}
    (h : ¬editor.Accepts issueTypes) :
    editor.changeIssueTypes issueTypes =
      { editor with conflictError := (editor.conflictsWith issueTypes).message? } := by
  unfold changeIssueTypes
  cases hmessage : (editor.conflictsWith issueTypes).message? with
  | none => exact absurd (message?_eq_none_iff.1 hmessage) h
  | some message => rfl

/-- What an operation comes to, as far as the filters and the shown refusal are concerned. -/
inductive Effect (editor : Editor) : Operation → Editor → Prop where
  | aside {operation : Operation} {after : Editor} (apart : ¬editor.TouchesFilters operation)
      (filters : after.filters = editor.filters)
      (shown : after.conflictError = editor.conflictError) : Effect editor operation after
  | refused {issueTypes : List String} (refused : ¬editor.Accepts issueTypes) :
      Effect editor (.changeIssueTypes issueTypes)
        { editor with conflictError := (editor.conflictsWith issueTypes).message? }
  | accepted {issueTypes : List String} (accepted : editor.Accepts issueTypes) :
      Effect editor (.changeIssueTypes issueTypes)
        { editor with filters := { editor.filters with issueTypes }, conflictError := none }
  | fields (fields : List FieldFilter) :
      Effect editor (.changeFields fields)
        { editor with filters := { editor.filters with fields }, conflictError := none }
  | narrowed {operation : Operation} {after : Editor} (touches : editor.TouchesFilters operation)
      (other : ∀ issueTypes, operation ≠ .changeIssueTypes issueTypes)
      (fields : after.filters.fields ⊆ editor.filters.fields)
      (issueTypes : after.filters.issueTypes ⊆ editor.filters.issueTypes)
      (shown : after.conflictError = none) : Effect editor operation after

/-- Projects bring no field filter and no issue type along, and end what is shown. -/
theorem changeProjects_effect (editor : Editor) (projects : List String) :
    (editor.changeProjects projects).filters.fields ⊆ editor.filters.fields ∧
      (editor.changeProjects projects).filters.issueTypes ⊆ editor.filters.issueTypes ∧
      (editor.changeProjects projects).conflictError = none := by
  unfold changeProjects
  split
  · exact ⟨List.Subset.refl _, List.Subset.refl _, rfl⟩
  · exact ⟨List.nil_subset _, List.nil_subset _, rfl⟩

theorem after_submit (editor : Editor) :
    editor.after .submit =
      if editor.flaw?.isSome then editor
      else { editor with submitting := true, error := none } := by
  unfold after perform submit
  cases editor.flaw? <;> rfl

theorem effect (editor : Editor) (operation : Operation) :
    editor.Effect operation (editor.after operation) := by
  cases operation with
  | changeInstance instanceId =>
      by_cases hsame : instanceId = editor.instanceId
      · have hafter : editor.after (.changeInstance instanceId) = editor := if_pos hsame
        rw [hafter]
        exact .aside (fun hother => hother hsame) rfl rfl
      · have hafter : editor.after (.changeInstance instanceId) =
            { editor with instanceId, error := none }.changeProjects [] := if_neg hsame
        obtain ⟨hfields, htypes, hshown⟩ :=
          changeProjects_effect { editor with instanceId, error := none } []
        rw [hafter]
        exact .narrowed hsame nofun hfields htypes hshown
  | changeProjects projects =>
      obtain ⟨hfields, htypes, hshown⟩ := editor.changeProjects_effect projects
      exact .narrowed trivial nofun hfields htypes hshown
  | changeIssueTypes issueTypes =>
      show editor.Effect _ (editor.changeIssueTypes issueTypes)
      by_cases haccepts : editor.Accepts issueTypes
      · rw [changeIssueTypes_of_accepts haccepts]
        exact .accepted haccepts
      · rw [changeIssueTypes_of_refused haccepts]
        exact .refused haccepts
  | changeEvents events =>
      exact .narrowed trivial nofun (List.Subset.refl _) (List.Subset.refl _) rfl
  | changeSelfRoles roles =>
      exact .narrowed trivial nofun (List.Subset.refl _) (List.Subset.refl _) rfl
  | changeFields fields => exact .fields fields
  | submit =>
      rw [after_submit]
      split <;> exact .aside id rfl rfl
  | setName name => exact .aside id rfl rfl
  | setMetadata metadata => exact .aside id rfl rfl
  | submitFinished error => exact .aside id rfl rfl

theorem changeProjects_metadata (editor : Editor) (projects : List String) :
    (editor.changeProjects projects).metadata = editor.metadata := by
  unfold changeProjects
  split <;> rfl

theorem after_metadata {editor : Editor} {operation : Operation}
    (h : ∀ metadata, .setMetadata metadata ≠ operation) :
    (editor.after operation).metadata = editor.metadata := by
  cases operation with
  | setMetadata metadata => exact absurd rfl (h metadata)
  | changeInstance instanceId =>
      show (editor.changeInstance instanceId).metadata = _
      unfold changeInstance
      split
      · rfl
      · exact changeProjects_metadata { editor with instanceId, error := none } []
  | changeProjects projects => exact editor.changeProjects_metadata projects
  | changeIssueTypes issueTypes =>
      show (editor.changeIssueTypes issueTypes).metadata = _
      unfold changeIssueTypes
      split <;> rfl
  | submit =>
      rw [after_submit]
      split <;> rfl
  | _ => rfl

theorem run_metadata {editor : Editor} {operations : List Operation}
    (h : ∀ metadata, .setMetadata metadata ∉ operations) :
    (editor.run operations).metadata = editor.metadata := by
  induction operations generalizing editor with
  | nil => rfl
  | cons operation later ih =>
      simp only [List.mem_cons, not_or, forall_and] at h
      exact (ih h.2).trans (after_metadata h.1)

end Editor

end IssueDesk
