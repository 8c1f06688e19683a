import IssueDesk.Subscription.Editor

/-! What a choice of projects takes with it. Projects that are chosen again are known again only as
the very list that is held, in its order and with its repetitions. Any other list of the same
projects counts as new, and the events, the issue types and the field filters go
(`reordered_projects_lose_filters`); only the roles always stay. -/

namespace IssueDesk

/-- The filters are the same, the projects apart. -/
structure Filters.SameBesideProjects (filters filters' : Filters) : Prop where
  events : filters'.events = filters.events
  issueTypes : filters'.issueTypes = filters.issueTypes
  fields : filters'.fields = filters.fields
  selfRoles : filters'.selfRoles = filters.selfRoles

namespace Editor

theorem changeProjects_of_held {editor : Editor} (h : editor.filters.projects ≠ []) :
    editor.changeProjects editor.filters.projects = { editor with conflictError := none } :=
  if_pos ⟨h, rfl⟩

theorem changeProjects_of_new {editor : Editor} {projects : List String}
    (h : projects ≠ editor.filters.projects) :
    editor.changeProjects projects =
      { editor with
        conflictError := none
        filters := { projects, selfRoles := editor.filters.selfRoles } } :=
  if_neg fun hheld => h hheld.2

/-- The projects that are held are chosen again. The filters beside them stay as they are if and
only if the list is the one that is held, or no filter but the roles is set. Otherwise the projects
are held in the order of the new list, the roles stay, and every other filter is lost. -/
theorem reselection_keeps_iff {editor : Editor} {projects : List String}
    (hchosen : editor.filters.projects ≠ [])
    (hsame : ∀ project, project ∈ projects ↔ project ∈ editor.filters.projects) :
    let after := editor.changeProjects projects
    (editor.filters.SameBesideProjects after.filters ↔
      projects = editor.filters.projects ∨
        editor.filters.events = [] ∧ editor.filters.issueTypes = [] ∧ editor.filters.fields = []) ∧
    (∀ project, project ∈ after.filters.projects ↔ project ∈ editor.filters.projects) ∧
    after.filters.selfRoles = editor.filters.selfRoles ∧
    (projects ≠ editor.filters.projects →
      after.filters = { projects, selfRoles := editor.filters.selfRoles }) := by
  intro after
  by_cases hheld : projects = editor.filters.projects
  · subst hheld
    rw [show after = { editor with conflictError := none } from changeProjects_of_held hchosen]
    exact ⟨iff_of_true ⟨rfl, rfl, rfl, rfl⟩ (Or.inl rfl), fun _ => Iff.rfl, rfl,
      fun hnew => absurd rfl hnew⟩
  · rw [show after = _ from changeProjects_of_new hheld]
    refine ⟨?_, hsame, rfl, fun _ => rfl⟩
    constructor
    · rintro ⟨hevents, htypes, hfields, -⟩
      exact Or.inr ⟨hevents.symm, htypes.symm, hfields.symm⟩
    · rintro (hsame | ⟨hevents, htypes, hfields⟩)
      · exact absurd hsame hheld
      · exact ⟨hevents.symm, htypes.symm, hfields.symm, rfl⟩

/-- A subscription to two projects, with every kind of filter. -/
def storedSubscription : Subscription where
  id := some "sub1"
  channelId := "channel1"
  name := "Ops"
  instanceId := "inst"
  filters :=
    { events := ["event_created"]
      projects := ["KT", "OPS"]
      issueTypes := ["1"]
      fields := [⟨"points", .includeAny, ["3"]⟩]
      selfRoles := ["watcher"] }

theorem held_projects_keep_filters :
    let editor := edit storedSubscription
    editor.filters.projects ≠ [] ∧
      editor.filters.SameBesideProjects (editor.changeProjects ["KT", "OPS"]).filters ∧
      (editor.changeProjects ["OPS", "KT", "OPS"]).filters.selfRoles = ["watcher"] ∧
      ¬editor.filters.SameBesideProjects (editor.changeProjects ["OPS", "KT", "OPS"]).filters := by
  intro editor
  have hchosen : editor.filters.projects ≠ [] := by decide
  have hheld := (reselection_keeps_iff hchosen (fun _ => Iff.rfl)).1
  have hsame : ∀ project, project ∈ ["OPS", "KT", "OPS"] ↔ project ∈ editor.filters.projects := by
    intro project
    show project ∈ ["OPS", "KT", "OPS"] ↔ project ∈ ["KT", "OPS"]
    simp only [List.mem_cons, List.not_mem_nil]
    grind
  obtain ⟨hiff, -, hroles, -⟩ := reselection_keeps_iff hchosen hsame
  exact ⟨hchosen, hheld.2 (Or.inl rfl), hroles, fun hkept => absurd (hiff.1 hkept) (by decide)⟩

/-- The same projects in another order are taken for new ones. -/
theorem reordered_projects_lose_filters :
    ¬∀ (editor : Editor) (projects : List String), editor.filters.projects ≠ [] →
      (∀ project, project ∈ projects ↔ project ∈ editor.filters.projects) →
      editor.filters.SameBesideProjects (editor.changeProjects projects).filters := by
  intro hkeeps
  have hsame : ∀ project, project ∈ ["OPS", "KT"] ↔
      project ∈ (edit storedSubscription).filters.projects := by
    intro project
    show project ∈ ["OPS", "KT"] ↔ project ∈ ["KT", "OPS"]
    simp only [List.mem_cons, List.not_mem_nil]
    grind
  have hlost := (hkeeps (edit storedSubscription) ["OPS", "KT"] (by decide) hsame).events
  exact absurd hlost (by decide)

end Editor

end IssueDesk
