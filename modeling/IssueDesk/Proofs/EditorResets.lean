import IssueDesk.Proofs.EditorProjects
import IssueDesk.Proofs.EditorSteps

/-! What a form forgets when it is given new projects or another instance. The events, the issue
types, the field filters and the projects depend on where they were chosen; the channel, the name,
the roles and the metadata do not. Forms that differ in nothing but the former become the same form,
so nothing that is done afterwards can bring to light what was chosen before. -/

namespace IssueDesk

namespace Editor

/-- What the host hears of operations, first to last, with what is logged. -/
def heard (editor : Editor) : List Operation → List (Reply × List Log.Record)
  | [] => []
  | operation :: later => (editor.perform operation).2 :: (editor.after operation).heard later

/-- Nothing that is done to the two forms tells them apart: neither what the host hears of it, nor
what is wrong with them after it. -/
def Alike (editor other : Editor) : Prop :=
  ∀ later, editor.heard later = other.heard later ∧
    (editor.run later).flaw? = (other.run later).flaw?

/-- Two forms agree in what is kept from one instance to another. -/
structure SameBesideInstance (editor other : Editor) : Prop where
  channelId : other.channelId = editor.channelId
  existingId : other.existingId = editor.existingId
  name : other.name = editor.name
  selfRoles : other.filters.selfRoles = editor.filters.selfRoles
  metadata : other.metadata = editor.metadata
  submitting : other.submitting = editor.submitting

/-- Two forms agree in what is kept from one choice of projects to another. -/
structure SameBesideProjects (editor other : Editor) : Prop
    extends SameBesideInstance editor other where
  instanceId : other.instanceId = editor.instanceId
  error : other.error = editor.error

/-- The projects are a new choice. No projects are so even if there were none before. -/
def TakesAsNew (editor : Editor) (projects : List String) : Prop :=
  projects = [] ∨ projects ≠ editor.filters.projects

instance (editor : Editor) (projects : List String) : Decidable (editor.TakesAsNew projects) :=
  inferInstanceAs (Decidable (_ ∨ _))

theorem SameBesideProjects.refl (editor : Editor) : editor.SameBesideProjects editor :=
  ⟨⟨rfl, rfl, rfl, rfl, rfl, rfl⟩, rfl, rfl⟩

theorem SameBesideProjects.symm {editor other : Editor} (h : editor.SameBesideProjects other) :
    other.SameBesideProjects editor where
  channelId := h.channelId.symm
  existingId := h.existingId.symm
  name := h.name.symm
  selfRoles := h.selfRoles.symm
  metadata := h.metadata.symm
  submitting := h.submitting.symm
  instanceId := h.instanceId.symm
  error := h.error.symm

theorem SameBesideProjects.trans {first second third : Editor}
    (h : first.SameBesideProjects second) (h' : second.SameBesideProjects third) :
    first.SameBesideProjects third where
  channelId := h'.channelId.trans h.channelId
  existingId := h'.existingId.trans h.existingId
  name := h'.name.trans h.name
  selfRoles := h'.selfRoles.trans h.selfRoles
  metadata := h'.metadata.trans h.metadata
  submitting := h'.submitting.trans h.submitting
  instanceId := h'.instanceId.trans h.instanceId
  error := h'.error.trans h.error

/-- A new choice of projects starts the filters anew. Only the roles stay. -/
theorem changeProjects_of_taken {editor : Editor} {projects : List String}
    (h : editor.TakesAsNew projects) :
    editor.changeProjects projects =
      { editor with
        conflictError := none
        filters := { projects, selfRoles := editor.filters.selfRoles } } := by
  rcases h with rfl | hnew
  · exact if_neg fun hheld => hheld.1 rfl
  · exact changeProjects_of_new hnew

theorem changeInstance_of_other {editor : Editor} {instanceId : String}
    (h : instanceId ≠ editor.instanceId) :
    editor.changeInstance instanceId =
      { editor with
        instanceId
        error := none
        conflictError := none
        filters := { selfRoles := editor.filters.selfRoles } } := by
  have hother : editor.changeInstance instanceId =
      { editor with instanceId, error := none }.changeProjects [] := if_neg h
  rw [hother, changeProjects_of_taken (Or.inl rfl)]

/-- An operation on the filters that depend on the projects. -/
def Operation.IsScoped : Operation → Prop
  | .changeProjects _ | .changeIssueTypes _ | .changeEvents _ | .changeFields _ => True
  | _ => False

theorem after_scoped (editor : Editor) {operation : Operation} (h : operation.IsScoped) :
    editor.SameBesideProjects (editor.after operation) := by
  cases operation with
  | changeProjects projects =>
      show editor.SameBesideProjects (editor.changeProjects projects)
      unfold changeProjects
      split <;> exact ⟨⟨rfl, rfl, rfl, rfl, rfl, rfl⟩, rfl, rfl⟩
  | changeIssueTypes issueTypes =>
      show editor.SameBesideProjects (editor.changeIssueTypes issueTypes)
      unfold changeIssueTypes
      split <;> exact ⟨⟨rfl, rfl, rfl, rfl, rfl, rfl⟩, rfl, rfl⟩
  | changeEvents events => exact ⟨⟨rfl, rfl, rfl, rfl, rfl, rfl⟩, rfl, rfl⟩
  | changeFields fields => exact ⟨⟨rfl, rfl, rfl, rfl, rfl, rfl⟩, rfl, rfl⟩
  | _ => exact absurd h id

theorem run_scoped (editor : Editor) {operations : List Operation}
    (h : ∀ operation ∈ operations, operation.IsScoped) :
    editor.SameBesideProjects (editor.run operations) := by
  induction operations generalizing editor with
  | nil => exact .refl editor
  | cons operation later ih =>
      have hfirst := editor.after_scoped (h operation List.mem_cons_self)
      exact hfirst.trans (ih _ fun other hmem => h other (List.mem_cons_of_mem _ hmem))

/-- Whatever two histories have done to the filters that depend on the projects, the forms agree in
the rest. -/
theorem run_scoped_same (editor : Editor) {operations operations' : List Operation}
    (h : ∀ operation ∈ operations, operation.IsScoped)
    (h' : ∀ operation ∈ operations', operation.IsScoped) :
    (editor.run operations).SameBesideProjects (editor.run operations') :=
  (editor.run_scoped h).symm.trans (editor.run_scoped h')

theorem changeProjects_eq_iff {editor other : Editor} {projects : List String}
    (h : editor.TakesAsNew projects) (h' : other.TakesAsNew projects) :
    editor.changeProjects projects = other.changeProjects projects ↔
      editor.SameBesideProjects other := by
  rw [changeProjects_of_taken h, changeProjects_of_taken h']
  constructor
  · intro hsame
    simp only [Editor.mk.injEq, Filters.mk.injEq] at hsame
    obtain ⟨hchannel, hid, hname, hinstance, ⟨-, -, -, -, hroles⟩, hmetadata, -, herror,
      hsubmitting⟩ := hsame
    exact ⟨⟨hchannel.symm, hid.symm, hname.symm, hroles.symm, hmetadata.symm, hsubmitting.symm⟩,
      hinstance.symm, herror.symm⟩
  · intro hsame
    rw [hsame.channelId, hsame.existingId, hsame.name, hsame.selfRoles, hsame.metadata,
      hsame.submitting, hsame.instanceId, hsame.error]

theorem changeInstance_eq_iff {editor other : Editor} {instanceId : String}
    (h : instanceId ≠ editor.instanceId) (h' : instanceId ≠ other.instanceId) :
    editor.changeInstance instanceId = other.changeInstance instanceId ↔
      editor.SameBesideInstance other := by
  rw [changeInstance_of_other h, changeInstance_of_other h']
  constructor
  · intro hsame
    simp only [Editor.mk.injEq, Filters.mk.injEq] at hsame
    obtain ⟨hchannel, hid, hname, -, ⟨-, -, -, -, hroles⟩, hmetadata, -, -, hsubmitting⟩ := hsame
    exact ⟨hchannel.symm, hid.symm, hname.symm, hroles.symm, hmetadata.symm, hsubmitting.symm⟩
  · intro hsame
    rw [hsame.channelId, hsame.existingId, hsame.name, hsame.selfRoles, hsame.metadata,
      hsame.submitting]

theorem Alike.of_eq {editor other : Editor} (h : editor = other) : editor.Alike other := by
  subst h
  exact fun _ => ⟨rfl, rfl⟩

/-- Projects that are a new choice for two forms make them the same form if and only if they agreed
in all but the filters that depend on the projects and the shown refusal; and an instance that is
another one for both does so if and only if they agreed in all but these, the instance and the shown
error. From then on nothing tells them apart. The projects or the instance are then the new ones, no
other filter is left than the roles, and the rest is what it was before. -/
theorem scope_change_forgets (editor other : Editor) :
    (∀ projects, editor.TakesAsNew projects → other.TakesAsNew projects →
      let after := editor.after (.changeProjects projects)
      let after' := other.after (.changeProjects projects)
      (after = after' ↔ editor.SameBesideProjects other) ∧
      (editor.SameBesideProjects other → after.Alike after') ∧
      editor.SameBesideProjects after ∧ after.conflictError = none ∧
      after.filters = { projects, selfRoles := editor.filters.selfRoles }) ∧
    (∀ instanceId, instanceId ≠ editor.instanceId → instanceId ≠ other.instanceId →
      let after := editor.after (.changeInstance instanceId)
      let after' := other.after (.changeInstance instanceId)
      (after = after' ↔ editor.SameBesideInstance other) ∧
      (editor.SameBesideInstance other → after.Alike after') ∧
      editor.SameBesideInstance after ∧ after.instanceId = instanceId ∧ after.error = none ∧
      after.conflictError = none ∧ after.filters = { selfRoles := editor.filters.selfRoles }) := by
  constructor
  · intro projects hnew hnew' after after'
    have hiff : after = after' ↔ editor.SameBesideProjects other :=
      changeProjects_eq_iff hnew hnew'
    refine ⟨hiff, fun hsame => .of_eq (hiff.2 hsame), editor.after_scoped trivial, ?_⟩
    rw [show after = _ from changeProjects_of_taken hnew]
    exact ⟨rfl, rfl⟩
  · intro instanceId hother hother' after after'
    have hiff : after = after' ↔ editor.SameBesideInstance other :=
      changeInstance_eq_iff hother hother'
    refine ⟨hiff, fun hsame => .of_eq (hiff.2 hsame), ?_⟩
    rw [show after = _ from changeInstance_of_other hother]
    exact ⟨⟨rfl, rfl, rfl, rfl, rfl, rfl⟩, rfl, rfl, rfl, rfl⟩

/-- A history that leaves filters of every kind, and a refusal that is shown. -/
def busyScope : List Operation :=
  [.changeEvents ["event_deleted"], .changeFields [⟨"points", .includeAny, []⟩],
    .changeIssueTypes ["2"]]

/-- Another history, which takes the projects away. -/
def emptyScope : List Operation := [.changeProjects ["OPS"], .changeProjects []]

/-- What a host may do to find out which of the two histories it was. -/
def probes : List Operation :=
  [.changeIssueTypes ["2", "1"], .changeEvents ["event_created"], .submit]

theorem scope_is_forgotten :
    let start := (edit storedSubscription).run [.setMetadata IssueMetadata.sampleMetadata]
    let editor := start.run busyScope
    let other := start.run emptyScope
    editor ≠ other ∧ editor.conflictError.isSome = true ∧
      editor.SameBesideProjects other ∧ editor.TakesAsNew ["NEW"] ∧ other.TakesAsNew ["NEW"] ∧
      editor.after (.changeProjects ["NEW"]) = other.after (.changeProjects ["NEW"]) ∧
      (editor.after (.changeProjects ["NEW"])).heard probes =
        (other.after (.changeProjects ["NEW"])).heard probes ∧
      ((editor.after (.changeProjects ["NEW"])).run probes).filters.projects = ["NEW"] ∧
      editor.after (.changeInstance "other") = other.after (.changeInstance "other") := by
  intro start editor other
  have hsame : editor.SameBesideProjects other :=
    start.run_scoped_same (by simp [busyScope, Operation.IsScoped])
      (by simp [emptyScope, Operation.IsScoped])
  have hnew : editor.TakesAsNew ["NEW"] := by decide +kernel
  have hnew' : other.TakesAsNew ["NEW"] := by decide +kernel
  obtain ⟨hprojects, hinstance⟩ := scope_change_forgets editor other
  obtain ⟨hiff, halike, -⟩ := hprojects ["NEW"] hnew hnew'
  refine ⟨by decide +kernel, by decide +kernel, hsame, hnew, hnew', hiff.2 hsame,
    (halike hsame probes).1, by decide +kernel, ?_⟩
  exact (hinstance "other" (by decide +kernel) (by decide +kernel)).1.2
    hsame.toSameBesideInstance

end Editor

end IssueDesk
