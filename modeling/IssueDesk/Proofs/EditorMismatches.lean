import IssueDesk.Proofs.EditorSteps
import Mathlib.Data.Set.Basic

/-! What the refusal of a change of issue types is for. A selected field filter and a selected issue
type do not go together if the metadata knows the field and the field does not apply to the type
(`mismatches`). A change is accepted exactly if it adds no such pair (`accepts_iff`), so the form
never comes to a new one unless it is given new field filters or new metadata. And as only what a
change adds counts, it does not matter in how many steps a selection grows. -/

namespace IssueDesk

theorem IssueMetadata.isEmpty_conflicts (metadata : IssueMetadata)
    (selected previous new : List String) :
    (metadata.conflicts selected previous new).isEmpty = true ↔
      ∀ key ∈ selected, ∀ id ∈ new, id ∉ previous → ∀ field, metadata.IsField key field →
        id ∈ field.issueTypes := by
  have hadded := addedIds_listsOnce previous new
  rw [ConflictReport.isEmpty, List.isEmpty_iff, List.eq_nil_iff_forall_not_mem]
  constructor
  · intro hnone key hkey id hnew hprevious field hfield
    by_contra hmissing
    have hid : id ∈ addedIds previous new := (hadded.mem_iff id).2 ⟨hnew, hprevious⟩
    obtain ⟨conflict, hconflict, -⟩ := exists_isConflict hfield hid hmissing
    exact hnone conflict (mem_conflicts.2 ⟨key, hkey, hconflict⟩)
  · intro happlies conflict hmem
    obtain ⟨key, hkey, hconflict⟩ := mem_conflicts.1 hmem
    obtain ⟨issueType, htype⟩ := List.exists_mem_of_ne_nil _ hconflict.nonempty
    have hlisted : issueType.id ∈ conflict.issueTypes.map (·.id) := List.mem_map_of_mem htype
    rw [hconflict.ids] at hlisted
    obtain ⟨hid, hmissing⟩ := List.mem_filter.1 hlisted
    obtain ⟨hnew, hprevious⟩ := (hadded.mem_iff _).1 hid
    exact of_decide_eq_true hmissing
      (happlies key hkey _ hnew hprevious conflict.field hconflict.field)

namespace Editor

/-- The metadata knows the field, and the field does not apply to the issue type. -/
def Lacks (editor : Editor) (key issueType : String) : Prop :=
  ∃ metadata field, editor.metadata = some metadata ∧ metadata.IsField key field ∧
    issueType ∉ field.issueTypes

/-- The selected field filters and the selected issue types that do not go together. -/
def mismatches (editor : Editor) : Set (String × String) :=
  { pair | pair.1 ∈ editor.filters.fields.map (·.key) ∧ pair.2 ∈ editor.filters.issueTypes ∧
    editor.Lacks pair.1 pair.2 }

theorem lacks_of_metadata {editor editor' : Editor} {key issueType : String}
    (hsame : editor'.metadata = editor.metadata) (h : editor'.Lacks key issueType) :
    editor.Lacks key issueType := by
  obtain ⟨metadata, field, hmetadata, hfield, hmissing⟩ := h
  exact ⟨metadata, field, hsame ▸ hmetadata, hfield, hmissing⟩

/-- A change is accepted exactly if all that it adds goes together with the selected fields. -/
theorem accepts_iff {editor : Editor} {issueTypes : List String} :
    editor.Accepts issueTypes ↔
      ∀ key ∈ editor.filters.fields.map (·.key), ∀ id ∈ issueTypes, id ∉ editor.filters.issueTypes →
        ¬editor.Lacks key id := by
  unfold Accepts conflictsWith Lacks
  cases editor.metadata with
  | none => simp [ConflictReport.empty, ConflictReport.isEmpty]
  | some metadata =>
      rw [metadata.isEmpty_conflicts]
      constructor
      · rintro happlies key hkey id hnew hprevious ⟨known, field, hknown, hfield, hmissing⟩
        cases hknown
        exact hmissing (happlies key hkey id hnew hprevious field hfield)
      · intro hgoes key hkey id hnew hprevious field hfield
        by_contra hmissing
        exact hgoes key hkey id hnew hprevious ⟨metadata, field, rfl, hfield, hmissing⟩

/-- Fewer field filters and issue types do not make more mismatches. -/
theorem mismatches_subset {editor editor' : Editor} (hmetadata : editor'.metadata = editor.metadata)
    (hfields : editor'.filters.fields ⊆ editor.filters.fields)
    (htypes : editor'.filters.issueTypes ⊆ editor.filters.issueTypes) :
    editor'.mismatches ⊆ editor.mismatches := by
  rintro ⟨key, id⟩ ⟨hkey, hid, hlacks⟩
  exact ⟨List.map_subset _ hfields hkey, htypes hid, lacks_of_metadata hmetadata hlacks⟩

theorem after_mismatches {editor : Editor} {operation : Operation}
    (hfields : ∀ fields, .changeFields fields ≠ operation)
    (hmetadata : ∀ metadata, .setMetadata metadata ≠ operation) :
    (editor.after operation).mismatches ⊆ editor.mismatches := by
  have hknown : (editor.after operation).metadata = editor.metadata := after_metadata hmetadata
  have heffect := editor.effect operation
  generalize editor.after operation = after at heffect hknown ⊢
  cases heffect with
  | aside apart filters shown =>
      refine mismatches_subset hknown ?_ ?_ <;> rw [filters] <;> exact List.Subset.refl _
  | refused refused => exact mismatches_subset rfl (List.Subset.refl _) (List.Subset.refl _)
  | accepted accepted =>
      rintro ⟨key, id⟩ ⟨hkey, hid, hlacks⟩
      refine ⟨hkey, ?_, hlacks⟩
      -- A type that was not selected before would have been held against the change.
      by_contra hadded
      exact accepts_iff.1 accepted key hkey id hid hadded hlacks
  | fields fields => exact absurd rfl (hfields fields)
  | narrowed touches other fields issueTypes shown =>
      exact mismatches_subset hknown fields issueTypes

theorem run_mismatches (editor : Editor) {operations : List Operation}
    (hfields : ∀ fields, .changeFields fields ∉ operations)
    (hmetadata : ∀ metadata, .setMetadata metadata ∉ operations) :
    (editor.run operations).mismatches ⊆ editor.mismatches := by
  induction operations generalizing editor with
  | nil => exact Set.Subset.refl _
  | cons operation later ih =>
      simp only [List.mem_cons, not_or, forall_and] at hfields hmetadata
      have hfirst : (editor.after operation).mismatches ⊆ editor.mismatches :=
        after_mismatches hfields.1 hmetadata.1
      have hlater : (editor.run (operation :: later)).mismatches ⊆
          (editor.after operation).mismatches :=
        ih (editor.after operation) hfields.2 hmetadata.2
      exact Set.Subset.trans hlater hfirst

/-- Unless the form is given new field filters or new metadata, no pair of a selected field filter
and a selected issue type becomes a mismatch that was none before, whatever else is done and whether
or not changes of issue types are refused meanwhile. -/
theorem mismatches_never_grow (editor : Editor) {operations : List Operation}
    (hfields : ∀ fields, .changeFields fields ∉ operations)
    (hmetadata : ∀ metadata, .setMetadata metadata ∉ operations) :
    (editor.run operations).metadata = editor.metadata ∧
      (editor.run operations).mismatches ⊆ editor.mismatches ∧
      (editor.mismatches = ∅ → (editor.run operations).mismatches = ∅) := by
  have hsubset := editor.run_mismatches hfields hmetadata
  exact ⟨run_metadata hmetadata, hsubset, fun hnone => Set.subset_empty_iff.1 (hnone ▸ hsubset)⟩

/-- A form with a field filter, and with an issue type to which the field does not apply. -/
def sampleEditor : Editor where
  channelId := "channel"
  instanceId := "tracker"
  filters := { projects := ["KT"], issueTypes := ["2"], fields := [⟨"points", .includeAny, []⟩] }
  metadata := some IssueMetadata.sampleMetadata

/-- Changes of issue types between other things; the first of them is refused. -/
def sampleEdits : List Operation :=
  [.changeIssueTypes ["2", "9"], .setName "Tasks", .changeIssueTypes ["1", "2", "1"],
    .changeEvents ["event_created"], .changeSelfRoles ["watcher"], .submit,
    .submitFinished (some "channel not found"), .changeInstance "tracker"]

theorem old_mismatch_stays_alone :
    let editor := sampleEditor.run sampleEdits
    (∀ fields, .changeFields fields ∉ sampleEdits) ∧
      (∀ metadata, .setMetadata metadata ∉ sampleEdits) ∧
      ¬sampleEditor.Accepts ["2", "9"] ∧ editor.filters.issueTypes = ["1", "2", "1"] ∧
      ("points", "2") ∈ editor.mismatches ∧ editor.mismatches ⊆ sampleEditor.mismatches ∧
      (editor.after (.changeProjects ["OPS"])).mismatches = ∅ := by
  have hfields : ∀ fields, .changeFields fields ∉ sampleEdits := by simp [sampleEdits]
  have hmetadata : ∀ metadata, .setMetadata metadata ∉ sampleEdits := by simp [sampleEdits]
  obtain ⟨hknown, hsubset, -⟩ := mismatches_never_grow sampleEditor hfields hmetadata
  have hfield : IssueMetadata.sampleMetadata.IsField "points" IssueMetadata.samplePoints :=
    IssueMetadata.isField_iff.2 (by decide +kernel)
  refine ⟨hfields, hmetadata, by decide +kernel, by decide +kernel, ?_, hsubset, ?_⟩
  · exact ⟨by decide +kernel, by decide +kernel, _, _, hknown, hfield, by decide +kernel⟩
  · exact Set.eq_empty_of_forall_notMem fun pair hpair => List.not_mem_nil hpair.1

/-! A selection of issue types that grows. -/

/-- Selections that are made one after the other are all accepted. -/
def AcceptsEach : Editor → List (List String) → Prop
  | _, [] => True
  | editor, issueTypes :: later =>
      editor.Accepts issueTypes ∧ (editor.changeIssueTypes issueTypes).AcceptsEach later

/-- What is checked on the way to a larger selection is what is checked in one step. -/
theorem accepts_iff_through {editor : Editor} {middle final : List String}
    (hmiddle : editor.filters.issueTypes ⊆ middle) (hfinal : middle ⊆ final) :
    editor.Accepts final ↔
      editor.Accepts middle ∧ (editor.changeIssueTypes middle).Accepts final := by
  have hsecond : editor.Accepts middle → ((editor.changeIssueTypes middle).Accepts final ↔
      ∀ key ∈ editor.filters.fields.map (·.key), ∀ id ∈ final, id ∉ middle →
        ¬editor.Lacks key id) := by
    intro haccepts
    rw [accepts_iff, changeIssueTypes_of_accepts haccepts]
    rfl
  constructor
  · intro haccepts
    have hgoes := accepts_iff.1 haccepts
    have hfirst : editor.Accepts middle :=
      accepts_iff.2 fun key hkey id hid hadded => hgoes key hkey id (hfinal hid) hadded
    refine ⟨hfirst, (hsecond hfirst).2 fun key hkey id hid hadded => ?_⟩
    exact hgoes key hkey id hid fun hselected => hadded (hmiddle hselected)
  · rintro ⟨hfirst, hlast⟩
    refine accepts_iff.2 fun key hkey id hid hadded => ?_
    by_cases hpassed : id ∈ middle
    · exact accepts_iff.1 hfirst key hkey id hpassed hadded
    · exact (hsecond hfirst).1 hlast key hkey id hid hpassed

theorem changeIssueTypes_through {editor : Editor} {middle final : List String}
    (hmiddle : editor.filters.issueTypes ⊆ middle) (hfinal : middle ⊆ final)
    (haccepts : editor.Accepts final) :
    (editor.changeIssueTypes middle).changeIssueTypes final = editor.changeIssueTypes final := by
  obtain ⟨hfirst, hlast⟩ := (accepts_iff_through hmiddle hfinal).1 haccepts
  rw [changeIssueTypes_of_accepts hlast, changeIssueTypes_of_accepts hfirst,
    changeIssueTypes_of_accepts haccepts]

/-- Each selection of a growing chain lies within the last. -/
theorem subset_last_of_isChain {first final : List String} {path : List (List String)}
    (h : (first :: (path ++ [final])).IsChain (· ⊆ ·)) : first ⊆ final := by
  induction path generalizing first with
  | nil => exact (List.isChain_cons_cons.1 h).1
  | cons next later ih =>
      obtain ⟨hnext, hlater⟩ := List.isChain_cons_cons.1 h
      exact List.Subset.trans hnext (ih hlater)

theorem acceptsEach_iff {editor : Editor} {path : List (List String)} {final : List String}
    (h : (editor.filters.issueTypes :: (path ++ [final])).IsChain (· ⊆ ·)) :
    (editor.AcceptsEach (path ++ [final]) ↔ editor.Accepts final) ∧
      (editor.Accepts final →
        (path ++ [final]).foldl changeIssueTypes editor = editor.changeIssueTypes final) := by
  induction path generalizing editor with
  | nil => exact ⟨and_iff_left trivial, fun _ => rfl⟩
  | cons next later ih =>
      obtain ⟨hnext, hlater⟩ := List.isChain_cons_cons.1 h
      have hfinal := subset_last_of_isChain hlater
      have hthrough := accepts_iff_through hnext hfinal
      -- Once the first selection is taken over, the rest of the chain grows from it.
      have hgrows : editor.Accepts next →
          ((editor.changeIssueTypes next).filters.issueTypes :: (later ++ [final])).IsChain
            (· ⊆ ·) := by
        intro haccepts
        rw [changeIssueTypes_of_accepts haccepts]
        exact hlater
      constructor
      · rw [hthrough]
        exact and_congr_right fun haccepts => (ih (hgrows haccepts)).1
      · intro haccepts
        obtain ⟨hfirst, hlast⟩ := hthrough.1 haccepts
        exact ((ih (hgrows hfirst)).2 hlast).trans (changeIssueTypes_through hnext hfinal haccepts)

/-- In how many steps a selection of issue types grows makes no difference. The last of a growing
chain of selections is accepted in one step if and only if each of the chain is accepted in its
turn, and then the form ends up the same, with the last of them selected. -/
theorem growth_is_path_independent (editor : Editor) :
    (∀ middle final : List String, editor.filters.issueTypes ⊆ middle → middle ⊆ final →
      (editor.Accepts final ↔
        editor.Accepts middle ∧ (editor.changeIssueTypes middle).Accepts final) ∧
      (editor.Accepts final →
        (editor.changeIssueTypes middle).changeIssueTypes final = editor.changeIssueTypes final)) ∧
    ∀ (path : List (List String)) (final : List String),
      (editor.filters.issueTypes :: (path ++ [final])).IsChain (· ⊆ ·) →
      (editor.AcceptsEach (path ++ [final]) ↔ editor.Accepts final) ∧
      (editor.Accepts final →
        (path ++ [final]).foldl changeIssueTypes editor = editor.changeIssueTypes final ∧
        (editor.changeIssueTypes final).filters.issueTypes = final) := by
  constructor
  · intro middle final hmiddle hfinal
    exact ⟨accepts_iff_through hmiddle hfinal, changeIssueTypes_through hmiddle hfinal⟩
  · intro path final hchain
    obtain ⟨hiff, hsame⟩ := acceptsEach_iff hchain
    refine ⟨hiff, fun haccepts => ⟨hsame haccepts, ?_⟩⟩
    rw [changeIssueTypes_of_accepts haccepts]

/-- A selection that can grow by one issue type, and not by another. -/
theorem growth_of_sample_selection :
    let path := [["1", "2"], ["2", "1", "2"]]
    (sampleEditor.filters.issueTypes :: (path ++ [["1", "1", "2"]])).IsChain (· ⊆ ·) ∧
      (sampleEditor.filters.issueTypes :: (path ++ [["9", "2", "1"]])).IsChain (· ⊆ ·) ∧
      sampleEditor.AcceptsEach (path ++ [["1", "1", "2"]]) ∧
      (path ++ [["1", "1", "2"]]).foldl changeIssueTypes sampleEditor =
        sampleEditor.changeIssueTypes ["1", "1", "2"] ∧
      sampleEditor.AcceptsEach path ∧ ¬sampleEditor.AcceptsEach (path ++ [["9", "2", "1"]]) := by
  intro path
  have haccepted : (sampleEditor.filters.issueTypes :: (path ++ [["1", "1", "2"]])).IsChain
      (· ⊆ ·) := by decide
  have hrefused : (sampleEditor.filters.issueTypes :: (path ++ [["9", "2", "1"]])).IsChain
      (· ⊆ ·) := by decide
  obtain ⟨hsteps, hpaths⟩ := growth_is_path_independent sampleEditor
  obtain ⟨hiff, hsame⟩ := hpaths path ["1", "1", "2"] haccepted
  have hlast : sampleEditor.Accepts ["1", "1", "2"] := by decide +kernel
  have hpart := (hsteps ["1", "2"] ["2", "1", "2"] (by decide) (by decide)).1.1 (by decide +kernel)
  refine ⟨haccepted, hrefused, hiff.2 hlast, (hsame hlast).1, ⟨hpart.1, hpart.2, trivial⟩, ?_⟩
  rw [(hpaths path ["9", "2", "1"] hrefused).1]
  decide +kernel

end Editor

end IssueDesk
