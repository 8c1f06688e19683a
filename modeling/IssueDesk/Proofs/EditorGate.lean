import IssueDesk.Proofs.EditorMismatches

/-! The gate that a change of issue types has to pass. The report of a change decides: if nothing is
reported, the change is taken over as it was given, and otherwise the form only shows why it was
not. The decision is taken on the message of the report, which needs an issue type to name; that
every entry of a report has one is what makes the two agree (`words_of_nonempty`). -/

namespace IssueDesk

/-- The words for a report: they name the first issue type of the first entry, and the fields of all
entries in their order. -/
inductive ConflictReport.Words : ConflictReport → String → Prop where
  | intro (field : CustomField) (issueType : IssueType) (issueTypes : List IssueType)
      (others : List FieldConflict) :
      Words ⟨⟨field, issueType :: issueTypes⟩ :: others⟩
        ("Issue Type(s) \"" ++ issueType.name ++ "\" does not have filter field(s): \"" ++
          ", ".intercalate (field.name :: others.map (·.field.name)) ++
          "\".  Please update the conflicting fields or create a separate subscription.")

theorem ConflictReport.Words.message? {report : ConflictReport} {message : String}
    (h : report.Words message) : report.message? = some message := by
  cases h
  rfl

namespace Editor

/-- The report of a change: there is nothing to report without metadata. -/
def IsReported (editor : Editor) (issueTypes : List String) (report : ConflictReport) : Prop :=
  match editor.metadata with
  | none => report = .empty
  | some metadata =>
      metadata.IsReport (editor.filters.fields.map (·.key)) editor.filters.issueTypes issueTypes
        report

theorem isReported_iff {editor : Editor} {issueTypes : List String} {report : ConflictReport} :
    editor.IsReported issueTypes report ↔ report = editor.conflictsWith issueTypes := by
  unfold IsReported conflictsWith
  cases editor.metadata with
  | none => exact Iff.rfl
  | some metadata => exact IssueMetadata.isReport_iff

/-- A report that is not empty has words: its first entry names an issue type. -/
theorem words_of_nonempty {editor : Editor} {issueTypes : List String}
    (h : ¬editor.Accepts issueTypes) :
    ∃ message, (editor.conflictsWith issueTypes).Words message := by
  have hmessage : (editor.conflictsWith issueTypes).message? ≠ none :=
    fun hnone => h (message?_eq_none_iff.1 hnone)
  generalize editor.conflictsWith issueTypes = report at hmessage
  rcases report with ⟨_ | ⟨⟨field, _ | ⟨issueType, rest⟩⟩, others⟩⟩
  · exact absurd rfl hmessage
  · exact absurd rfl hmessage
  · exact ⟨_, .intro field issueType rest others⟩

/-- A change to some of the issue types that are selected adds nothing that could conflict. -/
theorem accepts_of_subset {editor : Editor} {issueTypes : List String}
    (h : issueTypes ⊆ editor.filters.issueTypes) : editor.Accepts issueTypes :=
  accepts_iff.2 fun _ _ _ hid hadded => absurd (h hid) hadded

theorem perform_of_accepts {editor : Editor} {issueTypes : List String}
    (h : editor.Accepts issueTypes) :
    editor.perform (.changeIssueTypes issueTypes) =
      ({ editor with filters := { editor.filters with issueTypes }, conflictError := none },
        .checked (editor.conflictsWith issueTypes), []) := by
  simp only [perform, changeIssueTypes_of_accepts h, message?_eq_none_iff.2 h]
  rfl

theorem perform_of_refused {editor : Editor} {issueTypes : List String} {message : String}
    (h : (editor.conflictsWith issueTypes).message? = some message) :
    editor.perform (.changeIssueTypes issueTypes) =
      ({ editor with conflictError := some message },
        .checked (editor.conflictsWith issueTypes),
        [blockedRecord (editor.conflictsWith issueTypes)]) := by
  simp only [perform, changeIssueTypes, h]
  rfl

/-- A change of issue types is answered with its report. If that is empty, the issue types become
the given ones, no refusal is shown and nothing else changes. Otherwise the report has words, these
are shown and nothing else changes, and the same change made again gives the same report and leaves
the form as it is. A change that selects nothing new has an empty report. -/
theorem gate_is_atomic (editor : Editor) (issueTypes : List String) :
    let report := editor.conflictsWith issueTypes
    (∀ other, editor.IsReported issueTypes other ↔ other = report) ∧
    (report.isEmpty = true →
      editor.perform (.changeIssueTypes issueTypes) =
        ({ editor with filters := { editor.filters with issueTypes }, conflictError := none },
          .checked report, [])) ∧
    (report.isEmpty = false → ∃ message, report.Words message ∧ report.message? = some message ∧
      let blocked := { editor with conflictError := some message }
      editor.perform (.changeIssueTypes issueTypes) =
        (blocked, .checked report, [blockedRecord report]) ∧
      blocked.perform (.changeIssueTypes issueTypes) =
        (blocked, .checked report, [blockedRecord report])) ∧
    (issueTypes ⊆ editor.filters.issueTypes → report.isEmpty = true) := by
  intro report
  refine ⟨fun _ => isReported_iff, perform_of_accepts, fun hrefused => ?_, accepts_of_subset⟩
  obtain ⟨message, hwords⟩ := words_of_nonempty (Bool.eq_false_iff.1 hrefused)
  have hmessage : report.message? = some message := hwords.message?
  -- The shown refusal is no part of what a change is held against, so it is refused as before.
  have hsame : ({ editor with conflictError := some message } : Editor).conflictsWith issueTypes =
      report := rfl
  refine ⟨message, hwords, hmessage, perform_of_refused hmessage, ?_⟩
  exact perform_of_refused ((congrArg ConflictReport.message? hsame).trans hmessage)

theorem gate_of_sample_selection :
    let report : ConflictReport := ⟨[⟨IssueMetadata.samplePoints, [⟨"9", "9"⟩]⟩]⟩
    let message := "Issue Type(s) \"9\" does not have filter field(s): \"Points\".  " ++
      "Please update the conflicting fields or create a separate subscription."
    let blocked := { sampleEditor with conflictError := some message }
    sampleEditor.IsReported ["2", "9", "1"] report ∧ report.isEmpty = false ∧
      sampleEditor.perform (.changeIssueTypes ["2", "9", "1"]) =
        (blocked, .checked report, [blockedRecord report]) ∧
      blocked.perform (.changeIssueTypes ["2", "9", "1"]) =
        (blocked, .checked report, [blockedRecord report]) ∧
      (blocked.after (.changeIssueTypes ["2", "2"])).filters.issueTypes = ["2", "2"] ∧
      (blocked.after (.changeIssueTypes ["2", "2"])).conflictError = none := by
  intro report message blocked
  have hreport : sampleEditor.conflictsWith ["2", "9", "1"] = report := by decide +kernel
  obtain ⟨hexact, -, hblocks, -⟩ := gate_is_atomic sampleEditor ["2", "9", "1"]
  rw [hreport] at hexact hblocks
  obtain ⟨shown, -, hshown, hfirst, hagain⟩ := hblocks rfl
  obtain rfl : shown = message := Option.some.inj (hshown.symm.trans (by decide +kernel))
  obtain ⟨-, hcommits, -, hsubset⟩ := gate_is_atomic blocked ["2", "2"]
  have hcommitted := congrArg Prod.fst (hcommits (hsubset (by decide)))
  refine ⟨(hexact _).2 rfl, rfl, hfirst, hagain, ?_, ?_⟩
  · exact congrArg (·.filters.issueTypes) hcommitted
  · exact congrArg (·.conflictError) hcommitted

end Editor

end IssueDesk
