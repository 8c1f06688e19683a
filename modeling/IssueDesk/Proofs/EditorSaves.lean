import IssueDesk.Proofs.EditorSteps
import IssueDesk.Proofs.EditorSubmission
import IssueDesk.Proofs.Underway

/-! Saves that are on their way. An operation sends a subscription, answers for one that was sent, or
does neither (`SaveStep`), and the form is marked as submitting exactly while a save is underway
(`submitting_iff`). But a submission does not ask for the mark: a complete form sends whether or not
an answer is still to come. So that saves take turns is up to whoever submits
(`saves_take_turns_iff`), and a form that is submitted twice in a row sends the same subscription
twice. -/

namespace IssueDesk

namespace Editor

/-- The operation hands over a subscription to be saved. -/
def Sends (editor : Editor) (operation : Operation) (sent : Subscription) : Prop :=
  (editor.perform operation).2.1 = .submitted (.ok sent)

/-- After operations on a form, one more sends something. -/
def SendsAfter (start : Editor) (earlier : List Operation) (operation : Operation) : Prop :=
  ∃ sent, (start.run earlier).Sends operation sent

/-- The backend's answer to a save. -/
def Operation.IsAnswer : Operation → Prop
  | .submitFinished _ => True
  | _ => False

theorem perform_submit (editor : Editor) :
    editor.perform .submit = (editor.submit.1, .submitted editor.submit.2, []) := by
  unfold perform
  generalize editor.submit = submission
  rfl

theorem operation_of_sends {editor : Editor} {operation : Operation} {sent : Subscription}
    (h : editor.Sends operation sent) : operation = .submit := by
  cases operation with
  | submit => rfl
  | _ => cases h

theorem sends_submit_iff {editor : Editor} {sent : Subscription} :
    editor.Sends .submit sent ↔ editor.Complete ∧ editor.payload = sent := by
  rw [Sends, perform_submit, Reply.submitted.injEq, submit_eq_ok_iff]

theorem after_submit_of_complete {editor : Editor} (h : editor.Complete) :
    editor.after .submit = { editor with submitting := true, error := none } := by
  rw [after, perform_submit, submit_of_complete h]

theorem after_submit_of_flaw {editor : Editor} {flaw : SubscriptionFlaw}
    (h : editor.IsFirstFlaw flaw) : editor.after .submit = editor := by
  rw [after, perform_submit, submit_of_flaw h]

/-- What an operation means for a save. -/
inductive SaveStep (editor : Editor) : Operation → Editor → Prop where
  | sent (complete : editor.Complete) :
      SaveStep editor .submit { editor with submitting := true, error := none }
  | answered (error : Option String) :
      SaveStep editor (.submitFinished error)
        { editor with submitting := false, error := error.or editor.error }
  | aside {operation : Operation} {after : Editor} (silent : ∀ sent, ¬editor.Sends operation sent)
      (unanswered : ¬operation.IsAnswer) (submitting : after.submitting = editor.submitting)
      (error : after.error = editor.error ∨ after.error = none) : SaveStep editor operation after

theorem changeProjects_save (editor : Editor) (projects : List String) :
    (editor.changeProjects projects).submitting = editor.submitting ∧
      (editor.changeProjects projects).error = editor.error := by
  unfold changeProjects
  split <;> exact ⟨rfl, rfl⟩

theorem saveStep (editor : Editor) (operation : Operation) :
    editor.SaveStep operation (editor.after operation) := by
  cases operation with
  | submit =>
      rcases editor.complete_or_isFirstFlaw with hcomplete | ⟨flaw, hflaw⟩
      · rw [after_submit_of_complete hcomplete]
        exact .sent hcomplete
      · rw [after_submit_of_flaw hflaw]
        refine .aside (fun sent hsends => ?_) id rfl (Or.inl rfl)
        exact hflaw.not_complete (sends_submit_iff.1 hsends).1
  | submitFinished error => exact .answered error
  | changeInstance instanceId =>
      show editor.SaveStep _ (editor.changeInstance instanceId)
      unfold changeInstance
      split
      · exact .aside nofun id rfl (Or.inl rfl)
      · obtain ⟨hsubmitting, herror⟩ :=
          changeProjects_save { editor with instanceId, error := none } []
        exact .aside nofun id hsubmitting (Or.inr herror)
  | changeProjects projects =>
      obtain ⟨hsubmitting, herror⟩ := editor.changeProjects_save projects
      exact .aside nofun id hsubmitting (Or.inl herror)
  | changeIssueTypes issueTypes =>
      show editor.SaveStep _ (editor.changeIssueTypes issueTypes)
      unfold changeIssueTypes
      split <;> exact .aside nofun id rfl (Or.inl rfl)
  | _ => exact .aside nofun id rfl (Or.inl rfl)

theorem submitting_after_iff (editor : Editor) (operation : Operation) :
    (editor.after operation).submitting = true ↔
      (∃ sent, editor.Sends operation sent) ∨
        editor.submitting = true ∧ ¬operation.IsAnswer := by
  have hstep := editor.saveStep operation
  generalize editor.after operation = after at hstep ⊢
  cases hstep with
  | sent complete => exact iff_of_true rfl (Or.inl ⟨_, sends_submit_iff.2 ⟨complete, rfl⟩⟩)
  | answered error =>
      refine iff_of_false Bool.false_ne_true ?_
      rintro (⟨sent, hsends⟩ | ⟨-, hunanswered⟩)
      · cases operation_of_sends hsends
      · exact hunanswered trivial
  | aside silent unanswered submitting error =>
      rw [submitting, or_iff_right fun ⟨sent, hsends⟩ => silent sent hsends]
      exact (and_iff_left unanswered).symm

theorem run_concat (editor : Editor) (operations : List Operation) (operation : Operation) :
    editor.run (operations ++ [operation]) = (editor.run operations).after operation :=
  editor.run_append operations [operation]

theorem run_cons (editor : Editor) (operation : Operation) (later : List Operation) :
    editor.run (operation :: later) = (editor.after operation).run later :=
  rfl

theorem Opened.idle {editor : Editor} (h : editor.Opened) :
    editor.submitting = false ∧ editor.error = none := by
  cases h <;> exact ⟨rfl, rfl⟩

/-- The mark on the form is exact. -/
theorem submitting_iff {start : Editor} (hopened : start.Opened) (operations : List Operation) :
    (start.run operations).submitting = true ↔
      Underway start.SendsAfter Operation.IsAnswer operations := by
  refine underway_iff (fun operations => (start.run operations).submitting = true) ?_ ?_ operations
  · exact Bool.eq_false_iff.1 hopened.idle.1
  · intro earlier operation
    rw [run_concat]
    exact submitting_after_iff _ operation

theorem Complete.again {editor : Editor} (h : editor.Complete) :
    Complete { editor with submitting := true, error := none } :=
  ⟨h.name, h.projects, h.events, h.selfRoles⟩

/-- A form is marked as submitting exactly while a save is underway. In a run the saves take turns,
each answered before the next is sent, if and only if it submits no complete form that is so marked:
a complete form sends in any case, and after it has sent, it sends the same subscription again. -/
theorem saves_take_turns_iff {start : Editor} (hopened : start.Opened)
    (operations : List Operation) :
    ((start.run operations).submitting = true ↔
      Underway start.SendsAfter Operation.IsAnswer operations) ∧
    (OneAtATime start.SendsAfter Operation.IsAnswer operations ↔
      ∀ earlier later, operations = earlier ++ .submit :: later → (start.run earlier).Complete →
        (start.run earlier).submitting = false) ∧
    (start.SendsAfter operations .submit ↔ (start.run operations).Complete) ∧
    ∀ sent, (start.run operations).Sends .submit sent →
      (start.run (operations ++ [.submit])).submitting = true ∧
        (start.run (operations ++ [.submit])).Sends .submit sent := by
  have hsends : ∀ earlier, start.SendsAfter earlier .submit ↔ (start.run earlier).Complete := by
    intro earlier
    constructor
    · rintro ⟨sent, hsends⟩
      exact (sends_submit_iff.1 hsends).1
    · intro hcomplete
      exact ⟨_, sends_submit_iff.2 ⟨hcomplete, rfl⟩⟩
  refine ⟨submitting_iff hopened operations, ?_, hsends operations, ?_⟩
  · rw [oneAtATime_iff]
    constructor
    · intro hfree earlier later hsplit hcomplete
      have hidle := hfree earlier .submit later hsplit ((hsends earlier).2 hcomplete)
      rwa [← submitting_iff hopened, Bool.not_eq_true] at hidle
    · rintro hfree earlier operation later hsplit ⟨sent, hsent⟩
      obtain rfl := operation_of_sends hsent
      rw [← submitting_iff hopened, Bool.not_eq_true]
      exact hfree earlier later hsplit ((hsends earlier).1 ⟨sent, hsent⟩)
  · intro sent hsent
    obtain ⟨hcomplete, rfl⟩ := sends_submit_iff.1 hsent
    rw [run_concat, after_submit_of_complete hcomplete]
    exact ⟨rfl, sends_submit_iff.2 ⟨hcomplete.again, rfl⟩⟩

/-- A save that fails, and is made again. -/
def answeredSaves : List Operation := [.submit, .submitFinished (some "timed out"), .submit]

theorem storedSubscription_complete : (edit storedSubscription).Complete :=
  flaw?_eq_none_iff.1 (by decide +kernel)

theorem answered_saves_take_turns :
    let start := edit storedSubscription
    start.Opened ∧ OneAtATime start.SendsAfter Operation.IsAnswer answeredSaves ∧
      Underway start.SendsAfter Operation.IsAnswer answeredSaves ∧
      (start.run [.submit]).Sends .submit storedSubscription := by
  intro start
  have hopened : start.Opened := .edit storedSubscription
  obtain ⟨hunderway, hturns, -⟩ := saves_take_turns_iff hopened answeredSaves
  obtain ⟨-, -, -, hagain⟩ := saves_take_turns_iff hopened []
  refine ⟨hopened, hturns.2 ?_, hunderway.1 (by decide +kernel), ?_⟩
  · intro earlier later hsplit _
    rcases earlier with _ | ⟨first, _ | ⟨second, _ | ⟨third, rest⟩⟩⟩
    · rfl
    · cases hsplit
    · cases hsplit
      decide +kernel
    · simp [answeredSaves] at hsplit
  · exact (hagain _ (sends_submit_iff.2 ⟨storedSubscription_complete, by decide +kernel⟩)).2

/-- A form that is submitted twice in a row sends twice, though it is marked as submitting. -/
theorem unanswered_save_is_sent_again :
    let editor := (edit storedSubscription).run [.submit]
    editor.submitting = true ∧ editor.Sends .submit storedSubscription ∧
      ¬∀ (start : Editor) (operations : List Operation), start.Opened →
        OneAtATime start.SendsAfter Operation.IsAnswer operations := by
  intro editor
  have hfirst : (edit storedSubscription).Sends .submit storedSubscription :=
    sends_submit_iff.2 ⟨storedSubscription_complete, by decide +kernel⟩
  have hsecond : editor.Sends .submit storedSubscription := by
    have hafter : editor = { edit storedSubscription with submitting := true, error := none } :=
      after_submit_of_complete storedSubscription_complete
    rw [hafter]
    exact sends_submit_iff.2 ⟨storedSubscription_complete.again, by decide +kernel⟩
  refine ⟨by decide +kernel, hsecond, fun hturns => ?_⟩
  obtain ⟨e, he, -⟩ := hturns (edit storedSubscription) [.submit, .submit] (.edit _) [] .submit []
    .submit [] rfl ⟨_, hfirst⟩ ⟨_, hsecond⟩
  exact List.not_mem_nil he

end Editor

end IssueDesk
