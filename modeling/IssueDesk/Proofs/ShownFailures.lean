import IssueDesk.Proofs.AttachRequests
import IssueDesk.Proofs.EditorSaves

/-! The failure that a form shows. Sending a subscription takes away what was said of the save before
it, so that no failure is shown while a save is on its way, and what is shown later has been said
since (`run_shown`). The form that attaches a message has no such step: nothing takes a message away
but the next one (`run_error`), so a request that is tried again shows the failure of the one before
it, also once it has gone well. -/

namespace IssueDesk

section

variable {α : Type} (said : α → Option String)

/-- The last message in a history of which some events say something. -/
def lastSaid (history : List α) : Option String := (history.filterMap said).getLast?

theorem lastSaid_append (history later : List α) :
    lastSaid said (history ++ later) = (lastSaid said later).or (lastSaid said history) := by
  rw [lastSaid, List.filterMap_append, List.getLast?_append]
  rfl

theorem lastSaid_singleton (event : α) : lastSaid said [event] = said event := by
  unfold lastSaid
  cases h : said event with
  | none => rw [List.filterMap_cons_none h]; rfl
  | some message => rw [List.filterMap_cons_some h]; rfl

theorem lastSaid_concat (history : List α) (event : α) :
    lastSaid said (history ++ [event]) = (said event).or (lastSaid said history) := by
  rw [lastSaid_append, lastSaid_singleton]

theorem lastSaid_eq_none_iff {history : List α} :
    lastSaid said history = none ↔ ∀ event ∈ history, said event = none := by
  rw [lastSaid, List.getLast?_eq_none_iff, List.filterMap_eq_nil_iff]

end

namespace Editor

variable {editor start : Editor} {operations : List Operation}

/-- What is said of a save that has failed. -/
def Operation.failure? : Operation → Option String
  | .submitFinished error => error
  | _ => none

theorem Operation.failure?_of_unanswered {operation : Operation} (h : ¬operation.IsAnswer) :
    operation.failure? = none := by
  cases operation with
  | submitFinished error => exact absurd trivial h
  | _ => rfl

/-- What an operation leaves shown it has said itself, or it was shown before. -/
theorem after_shown {operation : Operation} {message : String}
    (h : (editor.after operation).error = some message) :
    operation.failure?.or editor.error = some message := by
  have hstep := editor.saveStep operation
  generalize editor.after operation = after at hstep h
  cases hstep with
  | sent complete => cases h
  | answered error => exact h
  | aside silent unanswered submitting error =>
      rw [Operation.failure?_of_unanswered unanswered, Option.none_or]
      rcases error with hsame | hnone
      · exact hsame.symm.trans h
      · cases hnone.symm.trans h

theorem run_shown {message : String} (h : (editor.run operations).error = some message) :
    (lastSaid Operation.failure? operations).or editor.error = some message := by
  induction operations using List.reverseRecOn generalizing message with
  | nil => exact h
  | append_singleton earlier operation ih =>
      rw [run_concat] at h
      have hlast := after_shown h
      rw [lastSaid_concat, Option.or_assoc]
      cases hsaid : operation.failure? with
      | none => exact ih (by rwa [hsaid] at hlast)
      | some said => rwa [hsaid] at hlast

/-- While a save is on its way, no failure is shown. -/
def ClearWhileSubmitting (editor : Editor) : Prop :=
  editor.submitting = true → editor.error = none

theorem ClearWhileSubmitting.after (h : editor.ClearWhileSubmitting) (operation : Operation) :
    (editor.after operation).ClearWhileSubmitting := by
  have hstep := editor.saveStep operation
  generalize editor.after operation = after at hstep ⊢
  intro hsubmitting
  cases hstep with
  | sent complete => rfl
  | answered error => cases hsubmitting
  | aside silent unanswered submitting error =>
      rcases error with hsame | hnone
      · exact hsame.trans (h (submitting.symm.trans hsubmitting))
      · exact hnone

theorem ClearWhileSubmitting.run (h : editor.ClearWhileSubmitting) (operations : List Operation) :
    (editor.run operations).ClearWhileSubmitting := by
  induction operations generalizing editor with
  | nil => exact h
  | cons operation later ih => exact ih (h.after operation)

/-- What is shown after a save was sent has been said since. -/
theorem shown_since {earlier later : List Operation} {message : String}
    (hsends : start.SendsAfter earlier .submit)
    (h : (start.run (earlier ++ .submit :: later)).error = some message) :
    lastSaid Operation.failure? later = some message := by
  obtain ⟨sent, hsent⟩ := hsends
  have hcomplete := (sends_submit_iff.1 hsent).1
  rw [run_append, run_cons, after_submit_of_complete hcomplete] at h
  have hlast := run_shown h
  rwa [Option.or_none] at hlast

end Editor

namespace AttachForm

variable {start form : AttachForm} {operations : List Operation}

theorem after_error (form : AttachForm) (operation : Operation) :
    (form.after operation).error = operation.failure?.or form.error := by
  have hstep := form.step operation
  generalize form.after operation = after at hstep ⊢
  cases hstep with
  | sent ready => rfl
  | failed message => rfl
  | aside silent unfailed chosen =>
      rw [unfailed, Option.none_or]
      obtain rfl | ⟨instanceId, rfl⟩ | ⟨issueKey, rfl⟩ := chosen <;> rfl

theorem run_error (form : AttachForm) (operations : List Operation) :
    (form.run operations).error = (lastSaid Operation.failure? operations).or form.error := by
  induction operations using List.reverseRecOn with
  | nil => rfl
  | append_singleton earlier operation ih =>
      rw [run_concat, after_error, ih, lastSaid_concat, Option.or_assoc]

theorem Operation.not_isFailure_iff {operation : Operation} :
    ¬operation.IsFailure ↔ operation.failure? = none := by
  rw [IsFailure, Bool.not_eq_true, Option.isSome_eq_false_iff, Option.isNone_iff_eq_none]

theorem lastSaid_eq_none_iff_unfailed :
    lastSaid Operation.failure? operations = none ↔
      ∀ operation ∈ operations, ¬operation.IsFailure := by
  simp only [lastSaid_eq_none_iff, Operation.not_isFailure_iff]

section Runs

variable {earlier later : List Operation}

theorem not_isFailure_submit : ¬(Operation.submit).IsFailure :=
  Operation.not_isFailure_iff.2 rfl

/-- Until it fails itself, a request that was sent shows what was shown before it. -/
theorem error_while_submitting (hlater : ∀ operation ∈ later, ¬operation.IsFailure) :
    (start.run (earlier ++ .submit :: later)).error = (start.run earlier).error := by
  have hsilent : lastSaid Operation.failure? (.submit :: later) = none :=
    lastSaid_eq_none_iff_unfailed.2 (List.forall_mem_cons.2 ⟨not_isFailure_submit, hlater⟩)
  rw [run_append, run_error, hsilent, Option.none_or]

theorem error_eq_none_iff (hclear : start.error = none) :
    (start.run operations).error = none ↔ ∀ operation ∈ operations, ¬operation.IsFailure := by
  rw [run_error, hclear, Option.or_none, lastSaid_eq_none_iff_unfailed]

/-- A run never shows a failure while it submits if and only if it tries nothing again. -/
theorem clear_while_submitting_iff (hidle : start.submitting = false)
    (hclear : start.error = none) :
    (∀ earlier, earlier <+: operations → (start.run earlier).submitting = true →
      (start.run earlier).error = none) ↔
    ∀ earlier later, operations = earlier ++ .submit :: later → start.SendsAfter earlier .submit →
      ∀ operation ∈ earlier, ¬operation.IsFailure := by
  constructor
  · rintro hshown earlier later rfl hsends
    have hsubmitting : (start.run (earlier ++ [.submit])).submitting = true :=
      (submitting_iff hidle _).2 ⟨earlier, .submit, [], rfl, hsends, nofun⟩
    have hkept : (start.run (earlier ++ [.submit])).error = (start.run earlier).error :=
      error_while_submitting nofun
    have hnone := hshown _ ⟨later, List.append_assoc _ _ _⟩ hsubmitting
    exact (error_eq_none_iff hclear).1 (hkept.symm.trans hnone)
  · rintro huntried before ⟨rest, rfl⟩ hsubmitting
    obtain ⟨earlier, operation, later, rfl, hsends, hlater⟩ :=
      (submitting_iff hidle before).1 hsubmitting
    obtain rfl : operation = .submit := operation_of_sends hsends.choose_spec
    rw [error_while_submitting hlater, error_eq_none_iff hclear]
    exact huntried earlier (later ++ rest) (List.append_assoc _ _ _) hsends

end Runs

end AttachForm

/-- While a subscription is being saved the form shows no failure, and what it shows after a save
was sent is the last that has been said since. The form that attaches a message shows the last
failure of its whole run: a request that was sent shows what was said before it until it fails
itself, so that a run never shows a failure while it submits if and only if it tries no request
again after one has failed. -/
theorem shown_failure_is_last_said {opened : Editor} (hopened : opened.Opened)
    (saves : List Editor.Operation) (postId : String) (rootPostId : Option String)
    (currentTeam : String) (operations : List AttachForm.Operation) :
    let editor := opened.run saves
    let start := AttachForm.start postId rootPostId currentTeam
    let form := start.run operations
    (editor.submitting = true → editor.error = none) ∧
    (∀ earlier later message, saves = earlier ++ .submit :: later →
      opened.SendsAfter earlier .submit → editor.error = some message →
        lastSaid Editor.Operation.failure? later = some message) ∧
    form.error = lastSaid AttachForm.Operation.failure? operations ∧
    (∀ earlier later, operations = earlier ++ .submit :: later →
      start.SendsAfter earlier .submit → (∀ operation ∈ later, ¬operation.IsFailure) →
        form.submitting = true ∧ form.error = lastSaid AttachForm.Operation.failure? earlier) ∧
    ((∀ earlier, earlier <+: operations → (start.run earlier).submitting = true →
        (start.run earlier).error = none) ↔
      ∀ earlier later, operations = earlier ++ .submit :: later →
        start.SendsAfter earlier .submit → ∀ operation ∈ earlier, ¬operation.IsFailure) := by
  intro editor start form
  have herror : ∀ operations,
      (start.run operations).error = lastSaid AttachForm.Operation.failure? operations := by
    intro operations
    rw [AttachForm.run_error]
    exact Option.or_none
  refine ⟨?_, ?_, herror operations, ?_, ?_⟩
  · have hclear : opened.ClearWhileSubmitting := fun _ => hopened.idle.2
    exact hclear.run saves
  · rintro earlier later message hsplit hsends hshown
    subst hsplit
    exact Editor.shown_since hsends hshown
  · rintro earlier later hsplit hsends hlater
    have hsubmitting : form.submitting = true :=
      (AttachForm.submitting_iff rfl operations).2 ⟨earlier, .submit, later, hsplit, hsends, hlater⟩
    subst hsplit
    exact ⟨hsubmitting, (AttachForm.error_while_submitting hlater).trans (herror earlier)⟩
  · exact AttachForm.clear_while_submitting_iff rfl rfl

/-- A request fails and is tried again. -/
def retriedRequest : List AttachForm.Operation :=
  [.setInstance "inst", .setIssueKey "KT-1", .submit, .submitFinished (some "issue not found"),
    .submit]

theorem retried_save_is_clear :
    let opened := Editor.edit Editor.storedSubscription
    let editor := opened.run (Editor.answeredSaves ++ [.submitFinished none])
    let start := AttachForm.start "post1" none "team"
    let form := start.run (retriedRequest ++ [.submitFinished none])
    opened.Opened ∧
      opened.SendsAfter [.submit, .submitFinished (some "timed out")] .submit ∧
      editor.error = none ∧
      start.SendsAfter (retriedRequest.take 4) .submit ∧
      form.submitting = true ∧ form.error = some "issue not found" := by
  intro opened editor start form
  have hopened : opened.Opened := .edit _
  have hsave : opened.SendsAfter [.submit, .submitFinished (some "timed out")] .submit :=
    ⟨_, Editor.sends_submit_iff.2 ⟨Editor.flaw?_eq_none_iff.1 (by decide +kernel), rfl⟩⟩
  have hrequest : start.SendsAfter (retriedRequest.take 4) .submit :=
    ⟨⟨"post1", "team", "KT-1", "inst"⟩, AttachForm.sends_submit_iff.2 (by decide +kernel)⟩
  obtain ⟨-, hsince, -, hkept, -⟩ := shown_failure_is_last_said hopened
    (Editor.answeredSaves ++ [.submitFinished none]) "post1" none "team"
    (retriedRequest ++ [.submitFinished none])
  obtain ⟨hsubmitting, herror⟩ := hkept _ [.submitFinished none] rfl hrequest (by decide)
  refine ⟨hopened, hsave, ?_, hrequest, hsubmitting, herror.trans (by decide +kernel)⟩
  refine Option.eq_none_iff_forall_ne_some.2 fun message hshown => ?_
  cases hsince _ [.submitFinished none] message rfl hsave hshown

/-- The request that is tried again still shows the failure of the first. -/
theorem failure_is_shown_during_retry :
    let form := (AttachForm.start "post1" none "team").run retriedRequest
    form.submitting = true ∧ form.error = some "issue not found" ∧
      (form.after (.submitFinished none)).error = some "issue not found" ∧
      ¬∀ (postId : String) (rootPostId : Option String) (currentTeam : String)
        (operations : List AttachForm.Operation),
        let form := (AttachForm.start postId rootPostId currentTeam).run operations
        form.submitting = true → form.error = none := by
  intro form
  have hsubmitting : form.submitting = true := by decide +kernel
  have herror : form.error = some "issue not found" := by decide +kernel
  have hkept : (form.after (.submitFinished none)).error = form.error := form.after_error _
  refine ⟨hsubmitting, herror, hkept.trans herror, fun hclear => ?_⟩
  cases herror.symm.trans (hclear "post1" none "team" retriedRequest hsubmitting)

end IssueDesk
