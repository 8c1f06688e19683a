import IssueDesk.Proofs.SelectorHistory
import Mathlib.Data.List.Basic
import Mathlib.Data.List.Induction

/-! The error state of a selector and what the host is told of it. Each step clears the error state,
raises it or leaves it alone (`step_errorChannel`), and only a change is told. So what is told begins
with an error and alternates from there, and the selector is in the error state just if a failure
that counted has come since it was last cleared. A failure counts if it is the host's own search or
the latest request of its kind that failed, and the selector is mounted when the result is taken. -/

namespace IssueDesk

namespace Event

/-- What an event tells of the error state. -/
def errorReport? : Event → Option Bool
  | .errorChanged hasError => some hasError
  | _ => none

end Event

/-- The error state, and what has been told of it in order. -/
structure ErrorChannel where
  hasError : Bool := false
  told : List Bool := []
  deriving DecidableEq

namespace ErrorChannel

/-- Only a change is told. -/
def report (channel : ErrorChannel) (hasError : Bool) : ErrorChannel :=
  if channel.hasError = hasError then channel
  else { hasError, told := channel.told ++ [hasError] }

@[simp] theorem report_hasError (channel : ErrorChannel) (hasError : Bool) :
    (channel.report hasError).hasError = hasError := by
  unfold report
  split
  next h => exact h
  next => rfl

theorem report_of_eq {channel : ErrorChannel} {hasError : Bool} (h : channel.hasError = hasError) :
    channel.report hasError = channel := if_pos h

/-- What is told begins with an error and alternates, and what was told last is the state. -/
structure Alternates (channel : ErrorChannel) : Prop where
  told : ∀ n hasError, channel.told[n]? = some hasError → hasError = decide (n % 2 = 0)
  state : channel.hasError = decide (channel.told.length % 2 = 1)

theorem Alternates.report {channel : ErrorChannel} (h : channel.Alternates) (hasError : Bool) :
    (channel.report hasError).Alternates := by
  unfold ErrorChannel.report
  split
  next => exact h
  next hchange =>
    have hstate := h.state
    have hnow : hasError = decide (channel.told.length % 2 = 0) := by
      rw [hstate] at hchange
      rcases Nat.mod_two_eq_zero_or_one channel.told.length with hparity | hparity <;>
        cases hasError <;> simp_all
    refine ⟨fun n told htold => ?_, ?_⟩
    · rcases Nat.lt_trichotomy n channel.told.length with hn | rfl | hn
      · rw [List.getElem?_append_left hn] at htold
        exact h.told n told htold
      · rw [List.getElem?_concat_length] at htold
        exact (Option.some.inj htold).symm.trans hnow
      · rw [List.getElem?_eq_none (by simp; omega)] at htold
        cases htold
    · simp only [List.length_append, List.length_singleton, hnow]
      exact decide_eq_decide.2 (by omega)

theorem Alternates.last {channel : ErrorChannel} (h : channel.Alternates) :
    channel.hasError = channel.told.getLast?.getD false := by
  rw [h.state, List.getLast?_eq_getElem?]
  cases hlast : channel.told[channel.told.length - 1]? with
  | none =>
      have hlength := List.getElem?_eq_none_iff.1 hlast
      simp only [Option.getD_none, decide_eq_false_iff_not]
      omega
  | some hasError =>
      obtain ⟨hlength, -⟩ := List.getElem?_eq_some_iff.1 hlast
      rw [h.told _ _ hlast, Option.getD_some]
      exact decide_eq_decide.2 (by omega)

end ErrorChannel

/-- Of some outcomes one is a failure that counts. -/
def Selector.alarmed (selector : Selector) (outcomes : List Outcome) : Bool :=
  outcomes.any fun outcome => selector.accepts outcome && outcome.answer.failed

namespace Session

def errorChannel (session : Session α) : ErrorChannel where
  hasError := session.selector.hasError
  told := session.journal.filterMap Event.errorReport?

theorem errorChannel_emit (session : Session α) (event : Event)
    (h : event.errorReport? = none) : (session.emit event).errorChannel = session.errorChannel := by
  simp [errorChannel, emit, h]

@[simp] theorem errorChannel_log (session : Session α) (level : Log.Level) (message : String)
    (fields : List (String × String)) :
    (session.log level message fields).errorChannel = session.errorChannel :=
  session.errorChannel_emit _ rfl

@[simp] theorem errorChannel_reportError (session : Session α) (hasError : Bool) :
    (session.reportError hasError).errorChannel = session.errorChannel.report hasError := by
  unfold reportError ErrorChannel.report
  by_cases h : session.selector.hasError = hasError
  · rw [if_pos h, if_pos (show session.errorChannel.hasError = hasError from h)]
  · rw [if_neg h, if_neg (show ¬ session.errorChannel.hasError = hasError from h)]
    simp [errorChannel, emit, update, Event.errorReport?]

/-- A failure counts while the selector is mounted. -/
theorem errorChannel_settle (session : Session α) (query : String) (answer : Answer) :
    (session.settle query answer).1.errorChannel =
      if session.selector.mounted && answer.failed then session.errorChannel.report true
      else session.errorChannel := by
  cases answer with
  | ok options => simp [settle, Answer.failed]
  | error error =>
      have hlogged : (session.log (errorLevel error) error.message [("query", query)]).selector =
          session.selector := rfl
      cases hmounted : session.selector.mounted <;>
        simp [settle, Answer.failed, hlogged, hmounted]

/-- A change of the selector that is not one of its error state is not told. -/
theorem errorChannel_update (session : Session α) {f : Selector → Selector}
    (h : (f session.selector).hasError = session.selector.hasError) :
    (session.update f).errorChannel = session.errorChannel := by
  unfold errorChannel
  rw [← h]
  rfl

theorem errorChannel_write (session : Session α) (outcome : Outcome)
    (hmounted : session.selector.mounted = true) :
    (session.write outcome).errorChannel =
      if outcome.answer.failed then session.errorChannel.report true
      else session.errorChannel := by
  unfold write
  cases outcome.kind with
  | search =>
      dsimp only
      rw [errorChannel_update _ rfl, errorChannel_settle, errorChannel_update _ rfl]
      simp [update, hmounted]
  | lookup =>
      dsimp only
      rw [errorChannel_update _ rfl, errorChannel_settle]
      simp [hmounted]

/-- An outcome is told of if it is a failure that counts. -/
theorem errorChannel_apply (session : Session α) (outcome : Outcome) :
    (session.apply outcome).1.errorChannel =
      if session.selector.accepts outcome && outcome.answer.failed then
        session.errorChannel.report true
      else session.errorChannel := by
  unfold apply Selector.accepts
  dsimp only
  cases hmounted : session.selector.mounted with
  | false => simp
  | true =>
      by_cases hlatest : outcome.id = session.selector.latest outcome.kind
      · simp [hlatest, errorChannel_write session outcome hmounted]
      · simp [hlatest]

theorem errorChannel_receive (session : Session α) (outcome : Outcome) (rest : List Outcome) :
    (session.receive outcome rest).errorChannel = session.errorChannel := by
  have hreceived := errorChannel_emit { session with channel := rest }
    (.received outcome.kind outcome.id) rfl
  unfold receive
  rcases grant_cases ({ session with channel := rest }.emit (.received outcome.kind outcome.id))
    with ⟨-, h⟩ | ⟨task, answer, -, -, h⟩ <;> rw [h] <;> exact hreceived

theorem errorChannel_receiveAll (session : Session α) (outcomes : List Outcome) :
    (session.receiveAll outcomes).errorChannel = session.errorChannel := by
  induction outcomes generalizing session with
  | nil => rfl
  | cons outcome rest ih => rw [receiveAll, ih, errorChannel_receive]

theorem apply_alarmed (session : Session α) (outcome : Outcome) (outcomes : List Outcome) :
    (session.apply outcome).1.selector.alarmed outcomes = session.selector.alarmed outcomes := by
  simp only [Selector.alarmed, apply_selector, Selector.take_accepts]

theorem errorChannel_applyAll (session : Session α) (outcomes : List Outcome) :
    (session.applyAll outcomes).1.errorChannel =
      if session.selector.alarmed outcomes then session.errorChannel.report true
      else session.errorChannel := by
  induction outcomes generalizing session with
  | nil => rfl
  | cons outcome rest ih =>
      have hcons : session.selector.alarmed (outcome :: rest) =
          (session.selector.accepts outcome && outcome.answer.failed ||
            session.selector.alarmed rest) := List.any_cons
      show ((session.apply outcome).1.applyAll rest).1.errorChannel = _
      rw [ih, apply_alarmed, errorChannel_apply, hcons]
      generalize (session.selector.accepts outcome && outcome.answer.failed) = first
      cases first <;> cases session.selector.alarmed rest <;> simp [ErrorChannel.report_of_eq]

theorem errorChannel_takeUntilCurrent (session : Session α) (outcomes : List Outcome) :
    (session.takeUntilCurrent outcomes).1.errorChannel =
      if session.selector.alarmed (session.selector.untilAccepted outcomes) then
        session.errorChannel.report true
      else session.errorChannel := by
  induction outcomes generalizing session with
  | nil => rfl
  | cons outcome rest ih =>
      have hchannel := errorChannel_apply (session.receive outcome rest) outcome
      have hkind := apply_snd (session.receive outcome rest) outcome
      have hselector := apply_selector (session.receive outcome rest) outcome
      rw [receive_selector] at hchannel hkind hselector
      rw [errorChannel_receive] at hchannel
      cases haccepts : session.selector.accepts outcome with
      | true =>
          rw [haccepts, if_pos rfl] at hkind
          simp only [takeUntilCurrent, hkind, Selector.untilAccepted, haccepts, if_true]
          rw [hchannel]
          simp [Selector.alarmed, haccepts]
      | false =>
          rw [haccepts, if_neg Bool.false_ne_true] at hkind
          rw [Selector.take_of_not_accepts haccepts] at hselector
          simp only [takeUntilCurrent, hkind, Selector.untilAccepted, haccepts,
            Bool.false_eq_true, if_false]
          rw [ih, hselector, hchannel]
          simp [Selector.alarmed, haccepts]

/-! What a step does to the error state. -/

/-- A step starts something anew for which the error state is cleared: a keystroke while the
selector is mounted, or a search of the host's own. -/
def clearsError (session : Session α) : Step α → Bool
  | .input _ => session.selector.mounted
  | .search _ => true
  | .resolve => !session.selector.selection.isEmpty
  | _ => false

/-- A request has failed whose result a step takes while the selector is mounted. It is the latest
of its kind, or it is the host's own search. -/
inductive RaisesError (session : Session α) : Step α → Prop
  | outcome {action : Step α} {outcome : Outcome} (htaken : outcome ∈ session.taken action)
      (hmounted : session.selector.mounted = true)
      (hlatest : outcome.id = session.selector.latest outcome.kind)
      (hfailed : outcome.answer.failed = true) : RaisesError session action
  | direct {direct : DirectSearch} {response : Except CallFailure (Envelope α)}
      (hdirect : session.direct = some direct) (hmounted : session.selector.mounted = true)
      (hfailed : (session.profile.source.fetch direct.query response).failed = true) :
      RaisesError session (.finish response)

/-- Whether a failure counts, as a step finds it out. -/
def alarm (session : Session α) : Step α → Bool
  | .finish response => session.direct.any fun direct => session.selector.mounted &&
      (session.profile.source.fetch direct.query response).failed
  | action => session.selector.alarmed (session.taken action)

theorem alarm_iff {session : Session α} {action : Step α} :
    session.alarm action = true ↔ session.RaisesError action := by
  have htaken : session.selector.alarmed (session.taken action) = true ↔
      ∃ outcome ∈ session.taken action, session.selector.mounted = true ∧
        outcome.id = session.selector.latest outcome.kind ∧ outcome.answer.failed = true := by
    simp only [Selector.alarmed, Selector.accepts, List.any_eq_true, Bool.and_eq_true, beq_iff_eq,
      and_assoc]
  constructor
  · intro halarm
    cases action with
    | finish response =>
        simp only [alarm, Option.any_eq_true, Bool.and_eq_true] at halarm
        obtain ⟨direct, hdirect, hmounted, hfailed⟩ := halarm
        exact .direct hdirect hmounted hfailed
    | _ =>
        obtain ⟨outcome, hmem, hmounted, hlatest, hfailed⟩ := htaken.1 halarm
        exact .outcome hmem hmounted hlatest hfailed
  · intro hraises
    cases hraises with
    | outcome hmem hmounted hlatest hfailed =>
        have halarmed := htaken.2 ⟨_, hmem, hmounted, hlatest, hfailed⟩
        cases action with
        | finish response => cases hmem
        | _ => exact halarmed
    | direct hdirect hmounted hfailed => simp [alarm, hdirect, hmounted, hfailed]

theorem errorChannel_inputChanged (session : Session α) (query : String) :
    (session.inputChanged query).errorChannel =
      if session.selector.mounted then session.errorChannel.report false
      else session.errorChannel := by
  cases hmounted : session.selector.mounted with
  | false => simp [inputChanged, hmounted]
  | true =>
      have hreport := errorChannel_reportError (session.update ({ · with query })) false
      simp only [inputChanged, hmounted, Bool.not_true, Bool.false_eq_true, if_false, if_true]
      exact hreport

theorem errorChannel_hold (session : Session α) (selection : Selection) :
    (session.hold selection).errorChannel = session.errorChannel := by
  unfold hold
  dsimp only
  split
  · exact errorChannel_log session _ _ _
  · rfl

theorem errorChannel_setValue (session : Session α) (selection : Selection) :
    (session.setValue selection).errorChannel = session.errorChannel := by
  have hhold := errorChannel_hold session selection
  unfold setValue
  dsimp only
  split
  · exact hhold
  · split <;> exact hhold

theorem errorChannel_beginSearch (session : Session α) (query : String) (resolves : Bool) :
    (session.beginSearch query resolves).errorChannel = session.errorChannel.report false := by
  have hcalled := errorChannel_emit (session.reportError false) (.called .host query) rfl
  exact hcalled.trans (errorChannel_reportError session false)

/-! What the tasks do leaves the selector alone, and nothing is told of its error state. -/

/-- The selector stays as it is, and so does what has been told of its error state. -/
structure Quiet (session session' : Session α) : Prop where
  selector : session'.selector = session.selector
  errorChannel : session'.errorChannel = session.errorChannel

theorem Quiet.callFor (session : Session α) (task : Task) (message : String)
    (fields : List (String × String)) :
    Quiet session ((session.log .debug message fields).callFor task) where
  selector := rfl
  errorChannel := by
    have hcalled := errorChannel_emit (session.log .debug message fields)
      (.called (.request task.kind task.id) task.query) rfl
    exact hcalled.trans (errorChannel_log session .debug message fields)

theorem wake_quiet (session : Session α) (id : Nat) : Quiet session (session.wake id) := by
  unfold wake
  cases session.task? id with
  | none => exact ⟨rfl, rfl⟩
  | some task =>
      cases hstage : task.stage with
      | pending due =>
          simp only [hstage]
          split
          · exact ⟨rfl, rfl⟩
          · cases task.kind with
            | search =>
                dsimp only
                split
                · exact Quiet.callFor session task _ _
                · exact ⟨rfl, rfl⟩
            | lookup => exact Quiet.callFor session task _ _
      | _ =>
          simp only [hstage]
          exact ⟨rfl, rfl⟩

theorem answer_quiet (session : Session α) (id : Nat)
    (response : Except CallFailure (Envelope α)) :
    Quiet session (session.answer id response) := by
  unfold answer
  cases session.task? id with
  | none => exact ⟨rfl, rfl⟩
  | some task =>
      cases hstage : task.stage with
      | awaiting =>
          simp only [hstage]
          split
          · exact ⟨rfl, rfl⟩
          · split <;> exact ⟨rfl, rfl⟩
      | _ =>
          simp only [hstage]
          exact ⟨rfl, rfl⟩

theorem send_quiet (session : Session α) (id : Nat) : Quiet session (session.send id) := by
  unfold send
  cases session.task? id with
  | none => exact ⟨rfl, rfl⟩
  | some task =>
      cases hstage : task.stage with
      | granted answer =>
          simp only [hstage]
          exact ⟨rfl, rfl⟩
      | _ =>
          simp only [hstage]
          exact ⟨rfl, rfl⟩

theorem errorChannel_finishDirect (session : Session α)
    (response : Except CallFailure (Envelope α)) :
    (session.finishDirect response).1.errorChannel =
      if session.direct.any fun direct => session.selector.mounted &&
          (session.profile.source.fetch direct.query response).failed then
        session.errorChannel.report true
      else session.errorChannel := by
  unfold finishDirect
  cases hdirect : session.direct with
  | none => rfl
  | some direct =>
      have hsettle := errorChannel_settle { session with direct := none } direct.query
        (session.profile.source.fetch direct.query response)
      dsimp only
      split
      · exact (errorChannel_update _ rfl).trans hsettle
      · exact hsettle

theorem errorChannel_nextUpdate (session : Session α) :
    session.nextUpdate.1.errorChannel =
      if session.selector.alarmed (session.taken .next) then session.errorChannel.report true
      else session.errorChannel := by
  unfold nextUpdate taken
  cases hmounted : session.selector.mounted with
  | false => rfl
  | true => exact errorChannel_takeUntilCurrent session session.channel

/-- A step clears the error state, raises it or leaves it alone. -/
theorem step_errorChannel (session : Session α) (action : Step α) :
    (session.step action).errorChannel =
      if session.clearsError action then session.errorChannel.report false
      else if session.alarm action then session.errorChannel.report true
      else session.errorChannel := by
  cases action with
  | input query =>
      rw [step, errorChannel_inputChanged]
      rfl
  | value selection => exact errorChannel_setValue session.abandon selection
  | poll =>
      show ((session.abandon.receiveAll session.channel).applyAll session.channel).1.errorChannel = _
      have hselector : (session.abandon.receiveAll session.channel).selector = session.selector := by
        rw [show session.channel = session.abandon.channel from rfl, receiveAll_eq_takeOut,
          takeOut_selector]
        rfl
      rw [errorChannel_applyAll, errorChannel_receiveAll, hselector]
      rfl
  | next => exact errorChannel_nextUpdate session.abandon
  | unmount => exact errorChannel_log _ .debug "unmounted" []
  | search query => exact errorChannel_beginSearch session.abandon query false
  | resolve =>
      have hbegin := errorChannel_beginSearch session.abandon "" true
      show session.abandon.beginResolve.errorChannel = _
      unfold beginResolve clearsError
      cases hempty : session.selector.selection.isEmpty with
      | true =>
          rw [if_pos (show session.abandon.selector.selection.isEmpty = true from hempty)]
          rfl
      | false =>
          rw [if_neg (by simp [abandon, hempty])]
          exact hbegin
  | finish response =>
      rw [step, errorChannel_finishDirect]
      rfl
  | abandon => rfl
  | wake id => exact (wake_quiet session id).errorChannel
  | answer id response => exact (answer_quiet session id response).errorChannel
  | send id => exact (send_quiet session id).errorChannel
  | wait ms => rfl

theorem run_alternates (profile : Profile α) (steps : List (Step α)) :
    ((start profile).run steps).errorChannel.Alternates := by
  induction steps using List.reverseRecOn with
  | nil => exact ⟨nofun, rfl⟩
  | append_singleton steps action ih =>
      rw [run_concat, step_errorChannel]
      split
      · exact ih.report false
      · split
        · exact ih.report true
        · exact ih

/-- A step leaves the selector in the error state if it raises it, or does not clear it. -/
theorem step_hasError (session : Session α) (action : Step α) :
    (session.step action).selector.hasError = true ↔
      session.clearsError action = false ∧
        (session.RaisesError action ∨ session.selector.hasError = true) := by
  have hchannel := congrArg ErrorChannel.hasError (session.step_errorChannel action)
  rw [show (session.step action).errorChannel.hasError = (session.step action).selector.hasError
    from rfl] at hchannel
  rw [hchannel, ← alarm_iff]
  cases session.clearsError action <;> cases session.alarm action <;> simp [errorChannel]

theorem RaisesError.mounted {session : Session α} {action : Step α}
    (h : session.RaisesError action) : session.selector.mounted = true := by
  cases h with
  | outcome htaken hmounted => exact hmounted
  | direct hdirect hmounted => exact hmounted

/-- What clears the error state does not raise it. -/
theorem RaisesError.not_clears {session : Session α} {action : Step α}
    (h : session.RaisesError action) : session.clearsError action = false := by
  cases h with
  | outcome hmem => cases action <;> first | rfl | cases hmem
  | direct => rfl

/-- A stretch of a run in which the error state is not cleared. -/
def KeepsError (session : Session α) (steps : List (Step α)) : Prop :=
  ∀ earlier action later, steps = earlier ++ action :: later →
    (session.run earlier).clearsError action = false

theorem keepsError_concat {session : Session α} {steps : List (Step α)} {action : Step α} :
    session.KeepsError (steps ++ [action]) ↔
      session.KeepsError steps ∧ (session.run steps).clearsError action = false := by
  constructor
  · intro h
    refine ⟨fun earlier other later hsplit => h earlier other (later ++ [action]) ?_,
      h steps action [] rfl⟩
    simp [hsplit]
  · rintro ⟨hsteps, haction⟩ earlier other later hsplit
    rcases List.eq_nil_or_concat' later with rfl | ⟨middle, last, rfl⟩
    · obtain ⟨rfl, hlast⟩ := List.append_inj' hsplit rfl
      cases hlast
      exact haction
    · have hsplit' : steps ++ [action] = (earlier ++ other :: middle) ++ [last] := by
        simpa using hsplit
      obtain ⟨rfl, -⟩ := List.append_inj' hsplit' rfl
      exact hsteps earlier other middle rfl

/-- The selector is in the error state if and only if a failure that counted has come since the
error state was last cleared. -/
theorem hasError_iff (profile : Profile α) (steps : List (Step α)) :
    ((start profile).run steps).selector.hasError = true ↔
      ∃ before action after, steps = before ++ action :: after ∧
        ((start profile).run before).RaisesError action ∧
        ((start profile).run (before ++ [action])).KeepsError after := by
  induction steps using List.reverseRecOn with
  | nil =>
      constructor
      · exact nofun
      · rintro ⟨before, action, after, hsplit, -⟩
        simp at hsplit
  | append_singleton steps action ih =>
      rw [run_concat, step_hasError, ih]
      constructor
      · rintro ⟨hkept, hraises | ⟨before, raising, after, rfl, hraises, hkeeps⟩⟩
        · exact ⟨steps, action, [], rfl, hraises, fun earlier other later hsplit => by simp at hsplit⟩
        · refine ⟨before, raising, after ++ [action], by simp, hraises, ?_⟩
          refine keepsError_concat.2 ⟨hkeeps, ?_⟩
          rw [← run_append]
          simpa using hkept
      · rintro ⟨before, raising, after, hsplit, hraises, hkeeps⟩
        rcases List.eq_nil_or_concat' after with rfl | ⟨middle, last, rfl⟩
        · obtain ⟨rfl, hlast⟩ := List.append_inj' hsplit rfl
          cases hlast
          exact ⟨hraises.not_clears, Or.inl hraises⟩
        · have hsplit' : steps ++ [action] = (before ++ raising :: middle) ++ [last] := by
            simpa using hsplit
          obtain ⟨rfl, hlast⟩ := List.append_inj' hsplit' rfl
          cases hlast
          obtain ⟨hmiddle, hkept⟩ := keepsError_concat.1 hkeeps
          rw [← run_append] at hkept
          exact ⟨by simpa using hkept, Or.inr ⟨before, raising, middle, rfl, hraises, hmiddle⟩⟩

/-- In every run what the host is told of the error state begins with an error and alternates, and
what it was told last is the state. The selector is in the error state if and only if a failure that
counted has come since it was last cleared. The outcome of a superseded request changes neither the
error state nor what is told. -/
theorem error_channel_is_exact (profile : Profile α) (steps : List (Step α)) :
    let session := (start profile).run steps
    let told := session.journal.filterMap Event.errorReport?
    (∀ n hasError, told[n]? = some hasError → hasError = decide (n % 2 = 0)) ∧
    session.selector.hasError = told.getLast?.getD false ∧
    (session.selector.hasError = true ↔
      ∃ before action after, steps = before ++ action :: after ∧
        ((start profile).run before).RaisesError action ∧
        ((start profile).run (before ++ [action])).KeepsError after) ∧
    ∀ outcome, outcome.id ≠ session.selector.latest outcome.kind →
      (session.apply outcome).1.errorChannel = session.errorChannel := by
  intro session told
  have halternates := run_alternates profile steps
  refine ⟨halternates.told, halternates.last, hasError_iff profile steps, fun outcome hstale => ?_⟩
  have hrejects : session.selector.accepts outcome = false := by simp [Selector.accepts, hstale]
  rw [errorChannel_apply, hrejects]
  rfl

/-- A call that fails. -/
def sampleFailure : Except CallFailure (Envelope SelectOption) := .error ⟨["no answer"]⟩

/-- The first of two searches fails late and the second one counts. A search of the host's own fails
after that, and a lookup is left under way. -/
def failingRun : List (Step SelectOption) :=
  [.input "a", .wait 400, .wake 1, .input "b", .wait 400, .wake 2, .answer 1 sampleFailure, .poll,
    .answer 2 sampleFailure, .poll, .search "c", .finish sampleFailure, .value (.single "x")]

theorem late_failure_is_not_told :
    let session := (start sampleProfile).run failingRun
    let told := session.journal.filterMap Event.errorReport?
    told = [true, false, true] ∧ told[2]? = some true ∧
      session.selector.hasError = told.getLast?.getD false ∧
      (∃ before action after, failingRun = before ++ action :: after ∧
        ((start sampleProfile).run before).RaisesError action ∧
        ((start sampleProfile).run (before ++ [action])).KeepsError after) ∧
      ((start sampleProfile).run (failingRun.take 8)).selector.hasError = false ∧
      (session.apply ⟨.search, 1, .error (.backend "late")⟩).1.errorChannel =
        session.errorChannel := by
  obtain ⟨-, hlast, hraised, hstale⟩ := error_channel_is_exact sampleProfile failingRun
  exact ⟨by decide, by decide, hlast, hraised.1 (by decide), by decide,
    hstale ⟨.search, 1, .error (.backend "late")⟩ (by decide)⟩

end Session

end IssueDesk
