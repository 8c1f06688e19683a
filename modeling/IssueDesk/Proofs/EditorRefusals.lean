import IssueDesk.Proofs.EditorSteps

/-! The refusal that the form shows is about the filters as they are. Whether one is shown is
settled by the last operation that touched the filters (`LastTouch`), and nothing that comes after
it matters: it was a change of issue types that was refused, and as the filters have stayed what
they were, the same change would be refused again in the same words. Only other metadata could make
it outdated. -/

namespace IssueDesk

namespace Editor

/-- A change of issue types is answered with a report of conflicts. -/
structure Refuses (editor : Editor) (issueTypes : List String) (report : ConflictReport) :
    Prop where
  reply : (editor.perform (.changeIssueTypes issueTypes)).2.1 = .checked report
  nonempty : report.isEmpty = false

theorem refuses_iff {editor : Editor} {issueTypes : List String} {report : ConflictReport} :
    editor.Refuses issueTypes report ↔
      editor.conflictsWith issueTypes = report ∧ ¬editor.Accepts issueTypes := by
  constructor
  · rintro ⟨hreply, hnonempty⟩
    obtain rfl : editor.conflictsWith issueTypes = report := Reply.checked.inj hreply
    exact ⟨rfl, Bool.eq_false_iff.1 hnonempty⟩
  · rintro ⟨rfl, hrefused⟩
    exact ⟨rfl, Bool.eq_false_iff.2 hrefused⟩

/-- What the form shows after an operation that touches the filters. -/
def refusal? (editor : Editor) : Operation → Option String
  | .changeIssueTypes issueTypes => (editor.conflictsWith issueTypes).message?
  | _ => none

theorem refusal?_isSome_iff {editor : Editor} {operation : Operation} :
    (editor.refusal? operation).isSome = true ↔
      ∃ issueTypes, operation = .changeIssueTypes issueTypes ∧ ¬editor.Accepts issueTypes := by
  constructor
  · intro hsome
    cases operation with
    | changeIssueTypes issueTypes =>
        refine ⟨issueTypes, rfl, fun haccepts => ?_⟩
        rw [refusal?, message?_eq_none_iff.2 haccepts] at hsome
        cases hsome
    | _ => cases hsome
  · rintro ⟨issueTypes, rfl, hrefused⟩
    refine Option.isSome_iff_ne_none.2 fun hnone => ?_
    exact hrefused (message?_eq_none_iff.1 hnone)

theorem after_touch {editor : Editor} {operation : Operation}
    (h : editor.TouchesFilters operation) :
    (editor.after operation).conflictError = editor.refusal? operation := by
  have heffect := editor.effect operation
  generalize editor.after operation = after at heffect ⊢
  cases heffect with
  | aside apart filters shown => exact absurd h apart
  | refused refused => rfl
  | accepted accepted => exact (message?_eq_none_iff.2 accepted).symm
  | fields fields => rfl
  | narrowed touches other fields issueTypes shown =>
      cases operation with
      | changeIssueTypes issueTypes => exact absurd rfl (other issueTypes)
      | _ => exact shown

theorem after_of_untouched {editor : Editor} {operation : Operation}
    (h : ¬editor.TouchesFilters operation) :
    (editor.after operation).filters = editor.filters ∧
      (editor.after operation).conflictError = editor.conflictError := by
  have heffect := editor.effect operation
  generalize editor.after operation = after at heffect ⊢
  cases heffect with
  | aside apart filters shown => exact ⟨filters, shown⟩
  | narrowed touches other fields issueTypes shown => exact absurd touches h
  | _ => exact absurd trivial h

/-- None of the operations touches the filters when its turn comes. -/
def Untouched : Editor → List Operation → Prop
  | _, [] => True
  | editor, operation :: later =>
      ¬editor.TouchesFilters operation ∧ (editor.after operation).Untouched later

instance decidableUntouched (editor : Editor) :
    (operations : List Operation) → Decidable (editor.Untouched operations)
  | [] => isTrue trivial
  | operation :: later =>
      have := decidableUntouched (editor.after operation) later
      inferInstanceAs (Decidable (¬editor.TouchesFilters operation ∧ _))

theorem Untouched.run {editor : Editor} {operations : List Operation}
    (h : editor.Untouched operations) :
    (editor.run operations).filters = editor.filters ∧
      (editor.run operations).conflictError = editor.conflictError := by
  induction operations generalizing editor with
  | nil => exact ⟨rfl, rfl⟩
  | cons operation later ih =>
      obtain ⟨hfilters, hshown⟩ := after_of_untouched h.1
      obtain ⟨hfilters', hshown'⟩ := ih h.2
      exact ⟨hfilters'.trans hfilters, hshown'.trans hshown⟩

/-- The last operation that touches the filters, with those before it and those after it. -/
structure LastTouch (start : Editor) (operations earlier : List Operation) (operation : Operation)
    (later : List Operation) : Prop where
  split : operations = earlier ++ operation :: later
  touches : (start.run earlier).TouchesFilters operation
  untouched : ((start.run earlier).after operation).Untouched later

theorem untouched_or_lastTouch (start : Editor) (operations : List Operation) :
    start.Untouched operations ∨
      ∃ earlier operation later, start.LastTouch operations earlier operation later := by
  induction operations generalizing start with
  | nil => exact Or.inl trivial
  | cons operation rest ih =>
      rcases ih (start.after operation) with huntouched | ⟨earlier, last, later, hlast⟩
      · by_cases htouches : start.TouchesFilters operation
        · exact Or.inr ⟨[], operation, rest, rfl, htouches, huntouched⟩
        · exact Or.inl ⟨htouches, huntouched⟩
      · refine Or.inr ⟨operation :: earlier, last, later, ?_, hlast.touches, hlast.untouched⟩
        rw [hlast.split, List.cons_append]

namespace LastTouch

variable {start : Editor} {operations earlier later : List Operation} {operation : Operation}

theorem run_eq (h : start.LastTouch operations earlier operation later) :
    start.run operations = ((start.run earlier).after operation).run later := by
  rw [h.split, run_append]
  rfl

theorem shown (h : start.LastTouch operations earlier operation later) :
    (start.run operations).conflictError = (start.run earlier).refusal? operation := by
  rw [h.run_eq, h.untouched.run.2, after_touch h.touches]

theorem filters (h : start.LastTouch operations earlier operation later) :
    (start.run operations).filters = ((start.run earlier).after operation).filters := by
  rw [h.run_eq, h.untouched.run.1]

theorem metadata (h : start.LastTouch operations earlier operation later)
    (hlater : ∀ metadata, .setMetadata metadata ∉ later) :
    (start.run operations).metadata = (start.run earlier).metadata := by
  have hother : ∀ metadata, .setMetadata metadata ≠ operation := by
    rintro metadata rfl
    exact h.touches
  rw [h.run_eq, run_metadata hlater, after_metadata hother]

end LastTouch

/-- The same filters and the same metadata make the same report. -/
theorem conflictsWith_congr {editor editor' : Editor} (hfilters : editor'.filters = editor.filters)
    (hmetadata : editor'.metadata = editor.metadata) (issueTypes : List String) :
    editor'.conflictsWith issueTypes = editor.conflictsWith issueTypes := by
  rw [conflictsWith, conflictsWith, hfilters, hmetadata]

/-- A form shows a refusal if and only if the last operation that touched its filters was a change
of issue types that was refused. What is shown is then the message of that report, and the filters
are those from before the change. Unless the metadata has been set since, the same change is refused
again with the same report, and leaves the form as it is. -/
theorem shown_refusal_is_current {start : Editor} (hopened : start.Opened)
    (operations : List Operation) :
    let editor := start.run operations
    (editor.conflictError.isSome = true ↔ ∃ earlier issueTypes later report,
      start.LastTouch operations earlier (.changeIssueTypes issueTypes) later ∧
        (start.run earlier).Refuses issueTypes report) ∧
    ∀ earlier issueTypes later report,
      start.LastTouch operations earlier (.changeIssueTypes issueTypes) later →
      (start.run earlier).Refuses issueTypes report →
        editor.conflictError = report.message? ∧
        editor.filters = (start.run earlier).filters ∧
        ((∀ metadata, .setMetadata metadata ∉ later) →
          editor.Refuses issueTypes report ∧
            editor.after (.changeIssueTypes issueTypes) = editor) := by
  intro editor
  constructor
  · constructor
    · intro hshown
      rcases start.untouched_or_lastTouch operations with
        huntouched | ⟨earlier, operation, later, hlast⟩
      · rw [huntouched.run.2, hopened.conflictError] at hshown
        cases hshown
      · rw [hlast.shown] at hshown
        obtain ⟨issueTypes, rfl, hrefused⟩ := refusal?_isSome_iff.1 hshown
        exact ⟨earlier, issueTypes, later, _, hlast, refuses_iff.2 ⟨rfl, hrefused⟩⟩
    · rintro ⟨earlier, issueTypes, later, report, hlast, hrefuses⟩
      rw [hlast.shown]
      exact refusal?_isSome_iff.2 ⟨issueTypes, rfl, (refuses_iff.1 hrefuses).2⟩
  · intro earlier issueTypes later report hlast hrefuses
    obtain ⟨rfl, hrefused⟩ := refuses_iff.1 hrefuses
    have hfilters : editor.filters = (start.run earlier).filters := by
      have hkept := congrArg Editor.filters (changeIssueTypes_of_refused hrefused)
      exact hlast.filters.trans hkept
    refine ⟨hlast.shown, hfilters, fun hlater => ?_⟩
    have hreport := conflictsWith_congr hfilters (hlast.metadata hlater) issueTypes
    have hshown : ((start.run earlier).conflictsWith issueTypes).message? = editor.conflictError :=
      hlast.shown.symm
    have hagain : editor.Refuses issueTypes ((start.run earlier).conflictsWith issueTypes) :=
      ⟨congrArg Reply.checked hreport, hrefuses.nonempty⟩
    refine ⟨hagain, (changeIssueTypes_of_refused (refuses_iff.1 hagain).2).trans ?_⟩
    rw [hreport, hshown]

/-- A new subscription with a field filter and an issue type that go together. -/
def sampleSetup : List Operation :=
  [.setMetadata IssueMetadata.sampleMetadata, .changeInstance "tracker", .changeProjects ["KT"],
    .changeIssueTypes ["1", "2"], .changeIssueTypes ["1"],
    .changeFields [⟨"points", .includeAny, []⟩]]

/-- What can be done while a refusal is shown. -/
def sampleAside : List Operation :=
  [.setName "Bugs", .changeInstance "tracker", .submit, .submitFinished (some "timed out")]

def refusedRun : List Operation := sampleSetup ++ .changeIssueTypes ["2", "1"] :: sampleAside

theorem refusal_stays_shown :
    let before := (create "channel").run sampleSetup
    let editor := (create "channel").run refusedRun
    let report : ConflictReport := ⟨[⟨IssueMetadata.samplePoints, [⟨"2", "Task"⟩]⟩]⟩
    (create "channel").Opened ∧ before.Refuses ["2", "1"] report ∧
      editor.conflictError.isSome = true ∧
      editor.conflictError = some ("Issue Type(s) \"Task\" does not have filter field(s): " ++
        "\"Points\".  Please update the conflicting fields or create a separate subscription.") ∧
      editor.filters = before.filters ∧ editor.filters.issueTypes = ["1"] ∧
      editor.Refuses ["2", "1"] report ∧ editor.after (.changeIssueTypes ["2", "1"]) = editor ∧
      (editor.after (.changeProjects ["KT"])).conflictError = none := by
  intro before editor report
  have hopened : (create "channel").Opened := .create "channel"
  have hlast : (create "channel").LastTouch refusedRun sampleSetup (.changeIssueTypes ["2", "1"])
      sampleAside :=
    ⟨rfl, trivial, by decide +kernel⟩
  have hrefuses : before.Refuses ["2", "1"] report :=
    refuses_iff.2 ⟨by decide +kernel, by decide +kernel⟩
  obtain ⟨hiff, hshown⟩ := shown_refusal_is_current hopened refusedRun
  obtain ⟨hmessage, hfilters, hagain⟩ := hshown _ _ _ _ hlast hrefuses
  obtain ⟨hrefused, hsame⟩ := hagain (by simp [sampleAside])
  refine ⟨hopened, hrefuses, hiff.2 ⟨_, _, _, _, hlast, hrefuses⟩, ?_, hfilters, ?_, hrefused,
    hsame, by decide +kernel⟩
  · exact hmessage.trans (by decide +kernel)
  · rw [hfilters]
    decide +kernel

end Editor

end IssueDesk
