import IssueDesk.AttachForm
import IssueDesk.Proofs.Underway

/-! What the form that attaches a message sends. Whatever sets an instance or a key drops empty texts,
so the form never holds one. It sends exactly while it can be submitted: then nothing that a request
needs is missing, and a form never counts as submitting without having sent something. From then on
only the answer that the request has failed lets it send again, so requests take turns and the last
one that did not fail is the only one on its way. -/

namespace IssueDesk

namespace AttachForm

/-- The form after an operation. -/
def after (form : AttachForm) (operation : Operation) : AttachForm := (form.perform operation).form

/-- The form after operations, first to last. -/
def run (form : AttachForm) (operations : List Operation) : AttachForm := operations.foldl after form

theorem run_append (form : AttachForm) (operations later : List Operation) :
    form.run (operations ++ later) = (form.run operations).run later :=
  List.foldl_append

theorem run_concat (form : AttachForm) (operations : List Operation) (operation : Operation) :
    form.run (operations ++ [operation]) = (form.run operations).after operation :=
  form.run_append operations [operation]

/-- What every operation keeps is kept by a run. -/
theorem run_keeps (kept : AttachForm → Prop)
    (hafter : ∀ form operation, kept form → kept (form.after operation)) {form : AttachForm}
    (h : kept form) (operations : List Operation) : kept (form.run operations) := by
  induction operations generalizing form with
  | nil => exact h
  | cons operation later ih => exact ih (hafter form operation h)

/-- The operation sends a request. -/
def Sends (form : AttachForm) (operation : Operation) (request : AttachRequest) : Prop :=
  (form.perform operation).reply = .submitted (some request)

/-- After operations on a form, one more sends something. -/
def SendsAfter (start : AttachForm) (earlier : List Operation) (operation : Operation) : Prop :=
  ∃ request, (start.run earlier).Sends operation request

/-- What is said of a request that has failed. -/
def Operation.failure? : Operation → Option String
  | .submitFinished error => error
  | _ => none

/-- The answer that a request has failed. -/
def Operation.IsFailure (operation : Operation) : Prop := operation.failure?.isSome = true

instance (operation : Operation) : Decidable operation.IsFailure :=
  inferInstanceAs (Decidable (_ = true))

/-- None of the texts that the form may hold is empty. -/
structure Named (form : AttachForm) : Prop where
  instanceId : form.instanceId ≠ some ""
  issueKey : form.issueKey ≠ some ""
  rootPostId : form.rootPostId ≠ some ""

/-- A request with the instance, the key and the message of a form. -/
structure Carries (form : AttachForm) (request : AttachRequest) : Prop where
  instanceId : form.instanceId = some request.instanceId
  issueKey : form.issueKey = some request.issueKey
  postId : request.postId = form.postId
  currentTeam : request.currentTeam = form.currentTeam

theorem canSubmit_iff {form : AttachForm} :
    form.canSubmit = true ↔ (∃ request, form.Carries request) ∧ form.submitting = false := by
  unfold canSubmit
  rw [Bool.and_eq_true, Bool.and_eq_true, Option.isSome_iff_exists, Option.isSome_iff_exists,
    Bool.not_eq_true']
  constructor
  · rintro ⟨⟨⟨instanceId, hinstance⟩, issueKey, hkey⟩, hidle⟩
    exact ⟨⟨⟨form.postId, form.currentTeam, issueKey, instanceId⟩, hinstance, hkey, rfl, rfl⟩, hidle⟩
  · rintro ⟨⟨request, hcarries⟩, hidle⟩
    exact ⟨⟨⟨_, hcarries.instanceId⟩, _, hcarries.issueKey⟩, hidle⟩

theorem request?_eq_some_iff {form : AttachForm} {request : AttachRequest} :
    form.request? = some request ↔ form.Carries request := by
  unfold request?
  constructor
  · intro hrequest
    obtain ⟨issueKey, hkey, hrest⟩ := Option.bind_eq_some_iff.1 hrequest
    obtain ⟨instanceId, hinstance, hsame⟩ := Option.bind_eq_some_iff.1 hrest
    obtain rfl := Option.some.inj hsame
    exact ⟨hinstance, hkey, rfl, rfl⟩
  · rintro ⟨hinstance, hkey, hpost, hteam⟩
    rw [hinstance, hkey, ← hpost, ← hteam]
    rfl

/-- A form that can be submitted has what a request needs: once it counts as submitting, the request
is put together. -/
theorem submit_eq_some_iff {form : AttachForm} {request : AttachRequest} :
    form.submit.2 = some request ↔ form.canSubmit = true ∧ form.Carries request := by
  unfold submit
  by_cases h : form.canSubmit = true
  · rw [if_pos h, request?_eq_some_iff, and_iff_right h]
  · rw [if_neg h]
    exact iff_of_false nofun fun hboth => h hboth.1

theorem exists_submit_iff {form : AttachForm} :
    (∃ request, form.submit.2 = some request) ↔ form.canSubmit = true := by
  constructor
  · rintro ⟨request, hsent⟩
    exact (submit_eq_some_iff.1 hsent).1
  · intro h
    obtain ⟨⟨request, hcarries⟩, -⟩ := canSubmit_iff.1 h
    exact ⟨request, submit_eq_some_iff.2 ⟨h, hcarries⟩⟩

theorem submit_of_canSubmit {form : AttachForm} (h : form.canSubmit = true) :
    form.submit.1 = { form with submitting := true } := by
  rw [submit, if_pos h]

theorem submit_of_not_canSubmit {form : AttachForm} (h : ¬form.canSubmit = true) :
    form.submit = (form, none) := by
  rw [submit, if_neg h]

/-- The search for a key says nothing to the host, and at most sets the key. -/
theorem searchKey_effect (form : AttachForm) (answer : Option (Except CallFailure (List String))) :
    (form.searchKey answer).reply = .done ∧
      ((form.searchKey answer).form = form ∨
        ∃ issueKey, (form.searchKey answer).form = form.setIssueKey issueKey) := by
  unfold searchKey
  cases form.rootPostId with
  | none => exact ⟨rfl, Or.inl rfl⟩
  | some rootId =>
      match answer with
      | none => exact ⟨rfl, Or.inl rfl⟩
      | some (.error failure) => exact ⟨rfl, Or.inl rfl⟩
      | some (.ok []) => exact ⟨rfl, Or.inl rfl⟩
      | some (.ok (key :: later)) => exact ⟨rfl, Or.inr ⟨_, rfl⟩⟩

theorem operation_of_sends {form : AttachForm} {operation : Operation} {request : AttachRequest}
    (h : form.Sends operation request) : operation = .submit := by
  cases operation with
  | submit => rfl
  | prefill answer => cases (form.searchKey_effect answer).1.symm.trans h
  | submitFinished error => cases error <;> cases h
  | setInstance instanceId => cases h
  | setIssueKey issueKey => cases h

theorem silent_of_ne {form : AttachForm} {operation : Operation} (h : operation ≠ .submit)
    (request : AttachRequest) : ¬form.Sends operation request :=
  fun hsends => h (operation_of_sends hsends)

theorem sends_submit_iff {form : AttachForm} {request : AttachRequest} :
    form.Sends .submit request ↔ form.submit.2 = some request := by
  show Reply.submitted form.submit.2 = .submitted (some request) ↔ _
  rw [Reply.submitted.injEq]

/-- What an operation can do to the form. -/
inductive Step (form : AttachForm) : Operation → AttachForm → Prop where
  | sent (ready : form.canSubmit = true) : Step form .submit { form with submitting := true }
  | failed (message : String) :
      Step form (.submitFinished (some message))
        { form with submitting := false, error := some message }
  | aside {operation : Operation} {after : AttachForm}
      (silent : ∀ request, ¬form.Sends operation request) (unfailed : operation.failure? = none)
      (chosen : after = form ∨ (∃ instanceId, after = form.setInstance instanceId) ∨
        ∃ issueKey, after = form.setIssueKey issueKey) : Step form operation after

theorem step (form : AttachForm) (operation : Operation) :
    form.Step operation (form.after operation) := by
  cases operation with
  | prefill answer =>
      rcases (form.searchKey_effect answer).2 with hsame | hkey
      · exact .aside (silent_of_ne nofun) rfl (Or.inl hsame)
      · exact .aside (silent_of_ne nofun) rfl (Or.inr (Or.inr hkey))
  | setInstance instanceId =>
      exact .aside (silent_of_ne nofun) rfl (Or.inr (Or.inl ⟨instanceId, rfl⟩))
  | setIssueKey issueKey =>
      exact .aside (silent_of_ne nofun) rfl (Or.inr (Or.inr ⟨issueKey, rfl⟩))
  | submit =>
      show form.Step .submit form.submit.1
      by_cases h : form.canSubmit = true
      · rw [submit_of_canSubmit h]
        exact .sent h
      · rw [submit_of_not_canSubmit h]
        refine .aside (fun request hsends => ?_) rfl (Or.inl rfl)
        exact h (exists_submit_iff.1 ⟨request, sends_submit_iff.1 hsends⟩)
  | submitFinished error =>
      cases error with
      | none => exact .aside (silent_of_ne nofun) rfl (Or.inl rfl)
      | some message => exact .failed message

theorem nonEmpty?_ne (text : Option String) : nonEmpty? text ≠ some "" :=
  fun h => (nonEmpty?_eq_some_iff.1 h).2 rfl

theorem named_start (postId : String) (rootPostId : Option String) (currentTeam : String) :
    (start postId rootPostId currentTeam).Named :=
  ⟨nofun, nofun, nonEmpty?_ne rootPostId⟩

theorem Named.after {form : AttachForm} (h : form.Named) (operation : Operation) :
    (form.after operation).Named := by
  have hstep := form.step operation
  generalize form.after operation = after at hstep ⊢
  cases hstep with
  | sent ready => exact ⟨h.instanceId, h.issueKey, h.rootPostId⟩
  | failed message => exact ⟨h.instanceId, h.issueKey, h.rootPostId⟩
  | aside silent unfailed chosen =>
      obtain rfl | ⟨instanceId, rfl⟩ | ⟨issueKey, rfl⟩ := chosen
      · exact h
      · exact ⟨nonEmpty?_ne (some instanceId), h.issueKey, h.rootPostId⟩
      · exact ⟨h.instanceId, nonEmpty?_ne (some issueKey), h.rootPostId⟩

theorem Named.run {form : AttachForm} (h : form.Named) (operations : List Operation) :
    (form.run operations).Named :=
  run_keeps Named (fun _ operation hnamed => hnamed.after operation) h operations

/-- The message and the team are those the form was started with. -/
theorem after_post (form : AttachForm) (operation : Operation) :
    (form.after operation).postId = form.postId ∧
      (form.after operation).currentTeam = form.currentTeam := by
  have hstep := form.step operation
  generalize form.after operation = after at hstep ⊢
  cases hstep with
  | aside silent unfailed chosen =>
      obtain rfl | ⟨instanceId, rfl⟩ | ⟨issueKey, rfl⟩ := chosen <;> exact ⟨rfl, rfl⟩
  | _ => exact ⟨rfl, rfl⟩

theorem run_post (form : AttachForm) (operations : List Operation) :
    (form.run operations).postId = form.postId ∧
      (form.run operations).currentTeam = form.currentTeam := by
  refine run_keeps (fun later => later.postId = form.postId ∧ later.currentTeam = form.currentTeam)
    ?_ ⟨rfl, rfl⟩ operations
  rintro before operation ⟨hpost, hteam⟩
  obtain ⟨hpost', hteam'⟩ := before.after_post operation
  exact ⟨hpost'.trans hpost, hteam'.trans hteam⟩

theorem submitting_after_iff (form : AttachForm) (operation : Operation) :
    (form.after operation).submitting = true ↔
      (∃ request, form.Sends operation request) ∨
        form.submitting = true ∧ ¬operation.IsFailure := by
  have hstep := form.step operation
  generalize form.after operation = after at hstep ⊢
  cases hstep with
  | sent ready =>
      obtain ⟨request, hsent⟩ := exists_submit_iff.2 ready
      exact iff_of_true rfl (Or.inl ⟨request, sends_submit_iff.2 hsent⟩)
  | failed message =>
      refine iff_of_false Bool.false_ne_true ?_
      rintro (⟨request, hsends⟩ | ⟨-, hunfailed⟩)
      · cases operation_of_sends hsends
      · exact hunfailed rfl
  | aside silent unfailed chosen =>
      have hsame : after.submitting = form.submitting := by
        obtain rfl | ⟨instanceId, rfl⟩ | ⟨issueKey, rfl⟩ := chosen <;> rfl
      have hnone : ¬operation.IsFailure := by
        rw [Operation.IsFailure, unfailed]
        exact Bool.false_ne_true
      rw [hsame, or_iff_right fun ⟨request, hsends⟩ => silent request hsends]
      exact (and_iff_left hnone).symm

section Runs

variable {start : AttachForm}

/-- The form counts as submitting exactly while it waits for an answer, and an answer that all went
well leaves it waiting. -/
theorem submitting_iff (hidle : start.submitting = false) (operations : List Operation) :
    (start.run operations).submitting = true ↔
      Underway start.SendsAfter Operation.IsFailure operations := by
  refine underway_iff (fun operations => (start.run operations).submitting = true) ?_ ?_ operations
  · exact Bool.eq_false_iff.1 hidle
  · intro earlier operation
    rw [run_concat]
    exact submitting_after_iff _ operation

theorem requests_take_turns (hidle : start.submitting = false) (operations : List Operation) :
    OneAtATime start.SendsAfter Operation.IsFailure operations := by
  rw [oneAtATime_iff]
  rintro earlier operation later - ⟨request, hsends⟩
  obtain rfl := operation_of_sends hsends
  have hready := exists_submit_iff.1 ⟨request, sends_submit_iff.1 hsends⟩
  rw [← submitting_iff hidle, (canSubmit_iff.1 hready).2]
  exact Bool.false_ne_true

end Runs

/-- In every run from the start of a form: none of the texts it holds is empty; it sends a request
if and only if it can be submitted, the request carries the instance and the key that are chosen,
and a submission that sends nothing leaves the form as it is. Between two requests the first has
failed, so that of the requests that have not failed at most one has been sent; and while one has
been sent and has not failed, the form cannot be submitted, whatever else is done or answered. The
answer that all went well changes nothing. -/
theorem requests_are_whole_and_single (postId : String) (rootPostId : Option String)
    (currentTeam : String) (operations : List Operation) :
    let start := start postId rootPostId currentTeam
    let form := start.run operations
    form.Named ∧
    ((∃ request, form.submit.2 = some request) ↔ form.canSubmit = true) ∧
    (∀ request, form.submit.2 = some request →
      form.instanceId = some request.instanceId ∧ request.instanceId ≠ "" ∧
      form.issueKey = some request.issueKey ∧ request.issueKey ≠ "" ∧
      request.postId = postId ∧ request.currentTeam = currentTeam ∧
      form.submit.1 = { form with submitting := true }) ∧
    (form.submit.2 = none → form.submit.1 = form) ∧
    OneAtATime start.SendsAfter Operation.IsFailure operations ∧
    (∀ earlier later earlier' later', operations = earlier ++ .submit :: later →
      operations = earlier' ++ .submit :: later' →
      start.SendsAfter earlier .submit → start.SendsAfter earlier' .submit →
      (∀ operation ∈ later, ¬operation.IsFailure) →
      (∀ operation ∈ later', ¬operation.IsFailure) → earlier = earlier') ∧
    (∀ earlier later, operations = earlier ++ .submit :: later → start.SendsAfter earlier .submit →
      (∀ operation ∈ later, ¬operation.IsFailure) → form.canSubmit = false) ∧
    form.after (.submitFinished none) = form := by
  intro start form
  have hnamed : form.Named := (named_start postId rootPostId currentTeam).run operations
  have hturns : OneAtATime start.SendsAfter Operation.IsFailure operations :=
    requests_take_turns rfl operations
  refine ⟨hnamed, exists_submit_iff, ?_, ?_, hturns, ?_, ?_, rfl⟩
  · intro request hsent
    obtain ⟨hready, hcarries⟩ := submit_eq_some_iff.1 hsent
    obtain ⟨hpost, hteam⟩ := start.run_post operations
    refine ⟨hcarries.instanceId, fun hempty => ?_, hcarries.issueKey, fun hempty => ?_,
      hcarries.postId.trans hpost, hcarries.currentTeam.trans hteam, submit_of_canSubmit hready⟩
    · exact hnamed.instanceId (hempty ▸ hcarries.instanceId)
    · exact hnamed.issueKey (hempty ▸ hcarries.issueKey)
  · intro hnone
    have hbusy : ¬form.canSubmit = true := by
      intro hready
      obtain ⟨request, hsent⟩ := exists_submit_iff.2 hready
      rw [hnone] at hsent
      cases hsent
    rw [submit_of_not_canSubmit hbusy]
  · intro earlier later earlier' later' hsplit hsplit' hsends hsends'
    exact hturns.unique hsplit hsplit' hsends hsends'
  · intro earlier later hsplit hsends hlater
    have hwaits : form.submitting = true :=
      (submitting_iff rfl operations).2 ⟨earlier, .submit, later, hsplit, hsends, hlater⟩
    rw [Bool.eq_false_iff, Ne, canSubmit_iff, hwaits]
    exact fun hready => Bool.false_ne_true hready.2.symm

/-- A request is answered well, one more is tried, and then the first is said to have failed. -/
def sampleOperations : List Operation :=
  [.setInstance "inst", .prefill (some (.ok ["kt-12", "kt-3"])), .submit, .submitFinished none,
    .submit, .submitFinished (some "issue not found")]

theorem failed_request_is_sent_again :
    let start := start "post1" (some "root1") "team"
    let form := start.run sampleOperations
    form.Named ∧ form.canSubmit = true ∧
      form.submit = ({ form with submitting := true }, some ⟨"post1", "team", "KT-12", "inst"⟩) ∧
      start.SendsAfter [.setInstance "inst", .prefill (some (.ok ["kt-12", "kt-3"]))] .submit ∧
      (start.run (sampleOperations.take 5)).canSubmit = false ∧
      (start.run (sampleOperations.take 5)).submit.1 = start.run (sampleOperations.take 5) := by
  intro start form
  have hsends : start.SendsAfter [.setInstance "inst", .prefill (some (.ok ["kt-12", "kt-3"]))]
      .submit :=
    ⟨⟨"post1", "team", "KT-12", "inst"⟩, sends_submit_iff.2 (by decide +kernel)⟩
  have hagain : form.submit.2 = some ⟨"post1", "team", "KT-12", "inst"⟩ := by decide +kernel
  obtain ⟨hnamed, hready, hcarries, -⟩ :=
    requests_are_whole_and_single "post1" (some "root1") "team" sampleOperations
  obtain ⟨-, -, -, hkept, -, -, hwaits, -⟩ :=
    requests_are_whole_and_single "post1" (some "root1") "team" (sampleOperations.take 5)
  refine ⟨hnamed, hready.1 ⟨_, hagain⟩, ?_, hsends, hwaits _ [.submitFinished none, .submit] rfl
    hsends (by decide), hkept (by decide +kernel)⟩
  exact Prod.ext (hcarries _ hagain).2.2.2.2.2.2 hagain

end AttachForm

end IssueDesk
