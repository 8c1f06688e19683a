import IssueDesk.Proofs.SelectorCalls
import IssueDesk.Proofs.SelectorErrors
import IssueDesk.Proofs.SelectorLabels
import IssueDesk.Proofs.SelectorLastSearch

/-! An unmount is final. What the selector shows and remembers stays as it was then (`Frozen`),
whatever the host still does and whatever is still answered. Each operation and each way a result
can come has a guard of its own; here they are brought together. The channel is gone, and the search
that was the latest has lost its place to an id that no task has (`Retired`), so of the searches that
still wait for their time none makes its call. -/

namespace IssueDesk

/-- A selector that is no longer mounted shows and remembers what it did. -/
structure Selector.Frozen (selector selector' : Selector) : Prop where
  query : selector'.query = selector.query
  options : selector'.options = selector.options
  labels : selector'.labels = selector.labels
  labelsFor : selector'.labelsFor = selector.labelsFor
  unmounted : selector'.mounted = false
  error : selector'.hasError = true → selector.hasError = true

theorem Selector.Frozen.trans {first second third : Selector} (h : Selector.Frozen first second)
    (h' : Selector.Frozen second third) : Selector.Frozen first third where
  query := h'.query.trans h.query
  options := h'.options.trans h.options
  labels := h'.labels.trans h.labels
  labelsFor := h'.labelsFor.trans h.labelsFor
  unmounted := h'.unmounted
  error := h.error ∘ h'.error

theorem Selector.take_labelsFor (selector : Selector) (outcome : Outcome) :
    (selector.take outcome).labelsFor = selector.labelsFor := by
  unfold take
  split
  · cases outcome.kind <;> rfl
  · rfl

namespace Session

/-- The selection for which a step last tries to make the labels known. -/
def seenTo? (session : Session α) : Step α → Option Selection
  | .value selection =>
      if session.seesTo selection then some (selection.fit session.profile.multi) else none
  | .finish _ =>
      match session.direct with
      | some direct =>
          if direct.resolves && session.selector.mounted then some session.selector.selection
          else none
      | none => none
  | _ => none

theorem setValue_labelsFor (session : Session α) (selection : Selection) :
    (session.setValue selection).selector.labelsFor =
      (session.seenTo? (.value selection)).or session.selector.labelsFor := by
  have hselector := hold_selector session selection
  have hseen := seesTo_eq session selection
  unfold setValue seenTo?
  dsimp only
  split
  next hclosed =>
    rw [hseen, hclosed, hselector]
    rfl
  next hopen =>
    rw [hseen, Bool.eq_false_iff.2 hopen]
    split <;> simp [issueId, update, spawn, hselector]

/-- All that ever becomes of what the labels are for. -/
theorem step_labelsFor (session : Session α) (action : Step α) :
    (session.step action).selector.labelsFor =
      (session.seenTo? action).or session.selector.labelsFor := by
  cases action with
  | input query =>
      cases hmounted : session.selector.mounted with
      | true =>
          rw [step, (inputChanged_of_mounted session.abandon query hmounted).2]
          rfl
      | false => simp [step, inputChanged, abandon, hmounted, seenTo?]
  | value selection => exact setValue_labelsFor session.abandon selection
  | poll =>
      rw [step, poll_selector]
      exact Selector.foldl_take_keeps _ Selector.take_labelsFor _ _
  | next =>
      cases hmounted : session.selector.mounted with
      | true =>
          rw [step, (next_same session.abandon hmounted).2]
          exact Selector.foldl_take_keeps _ Selector.take_labelsFor _ _
      | false => simp [step, nextUpdate, abandon, hmounted, seenTo?]
  | unmount => rfl
  | search query => simp [step, beginSearch, emit, abandon, seenTo?]
  | resolve =>
      simp only [step, beginResolve]
      split
      · rfl
      · simp [beginSearch, emit, abandon, seenTo?]
  | finish response =>
      simp only [step, finishDirect]
      cases hdirect : session.direct with
      | none => simp [seenTo?, hdirect]
      | some direct =>
          have hsettle := settle_selector { session with direct := none } direct.query
            (session.profile.source.fetch direct.query response)
          dsimp only at hsettle ⊢
          cases hresolves : direct.resolves && session.selector.mounted with
          | true => simp [hsettle, seenTo?, hdirect, hresolves, update]
          | false => simp [hsettle, seenTo?, hdirect, hresolves]
  | abandon => rfl
  | wake id => rw [step, (wake_quiet session id).selector]; rfl
  | answer id response => rw [step, (answer_quiet session id response).selector]; rfl
  | send id => rw [step, (send_quiet session id).selector]; rfl
  | wait ms => rfl

/-- An unmounted selector sees to no selection. -/
theorem unseen_of_unmounted {session : Session α} (h : session.selector.mounted = false)
    (action : Step α) : session.stored? action = none ∧ session.seenTo? action = none := by
  cases action with
  | value selection => simp [stored?, seenTo?, seesTo, h]
  | finish response => cases hdirect : session.direct <;> simp [stored?, seenTo?, hdirect, h]
  | _ => exact ⟨rfl, rfl⟩

theorem step_frozen {session : Session α} (h : session.selector.mounted = false)
    (action : Step α) : Selector.Frozen session.selector (session.step action).selector := by
  obtain ⟨hstored, hseen⟩ := unseen_of_unmounted h action
  have hlabels : (session.step action).selector.labels = session.selector.labels := by
    rw [step_labels, hstored, Selector.foldl_take_of_unmounted h]
    rfl
  have hlabelsFor : (session.step action).selector.labelsFor = session.selector.labelsFor := by
    rw [step_labelsFor, hseen]
    rfl
  have herror : (session.step action).selector.hasError = true →
      session.selector.hasError = true := by
    intro hraised
    rcases ((step_hasError session action).1 hraised).2 with hraises | hkept
    · exact absurd (h.symm.trans hraises.mounted) Bool.false_ne_true
    · exact hkept
  rcases (step_effect session action).view with
    hview | ⟨query, -, htrue⟩ | ⟨htook, -⟩ | ⟨-, hclosed⟩
  · exact ⟨hview.query, hview.options, hlabels, hlabelsFor, hview.mounted.trans h, herror⟩
  · rw [h] at htrue
    cases htrue
  · have hsame := htook.trans (Selector.foldl_take_of_unmounted h _)
    exact ⟨by rw [hsame], by rw [hsame], hlabels, hlabelsFor, by rw [hsame, h], herror⟩
  · exact ⟨by rw [hclosed], by rw [hclosed], hlabels, hlabelsFor, by rw [hclosed], herror⟩

theorem run_frozen {session : Session α} (h : session.selector.mounted = false)
    (steps : List (Step α)) : Selector.Frozen session.selector (session.run steps).selector := by
  induction steps using List.reverseRecOn with
  | nil => exact ⟨rfl, rfl, rfl, rfl, h, id⟩
  | append_singleton steps action ih =>
      rw [run_concat]
      exact ih.trans (step_frozen ih.unmounted action)

/-- No task has the id of the latest search any more. -/
structure Retired (session : Session α) : Prop where
  unmounted : session.selector.mounted = false
  passed : ∀ id task, session.task? id = some task → id ≠ session.selector.latestSearch

namespace Retired

variable {session session' : Session α}

/-- The id that an unmount takes is new. -/
theorem unmount (haccounted : Accounted session) (h : Effect session .unmount session') :
    Retired session' := by
  cases h with
  | aside hstalls => exact absurd hstalls id
  | took _ haction => rcases haction with haction | haction <;> cases haction
  | unmounted hsame hselector =>
      refine ⟨by rw [hselector], fun id task htask => ?_⟩
      rw [hsame.task?, task?_closed (tasks_nodup haccounted.nodup)] at htask
      have hfound := (Option.filter_eq_some_iff.1 htask).1
      have hfresh := mt haccounted.task?_fresh (by rw [hfound]; exact Option.some_ne_none task)
      show id ≠ session'.selector.latestSearch
      rw [hselector]
      show id ≠ session.selector.lastRequest + 1
      omega

theorem effect {action : Step α} (h : Retired session) (haccounted : Accounted session)
    (heffect : Effect session action session') : Retired session' := by
  have hlatest : session.selector.latestSearch ≤ session.selector.lastRequest :=
    haccounted.latest .search
  have hkept : session'.selector.latestSearch = session.selector.latestSearch →
      ∀ id task, session'.task? id = some task → id ≠ session'.selector.latestSearch := by
    intro hsame id task htask
    rw [hsame]
    rcases heffect.task_from haccounted htask with hold | ⟨hnew, -⟩ | ⟨old, hold, -⟩
    · exact h.passed id task hold
    · omega
    · exact h.passed id old hold
  rcases heffect.view with hview | ⟨query, -, hmounted⟩ | ⟨htook, -⟩ | ⟨rfl, -⟩
  · exact ⟨hview.mounted.trans h.unmounted, hkept hview.latestSearch⟩
  · rw [h.unmounted] at hmounted
    cases hmounted
  · have hsame := htook.trans (Selector.foldl_take_of_unmounted h.unmounted _)
    exact ⟨by rw [hsame, h.unmounted], hkept (by rw [hsame])⟩
  · exact unmount haccounted heffect

/-- A search makes its call only if it is the latest. -/
theorem calls (h : Retired session) {action : Step α} (heffect : Effect session action session') :
    session'.calls .search = session.calls .search := by
  rcases heffect.search_call with hsame | ⟨task, hcall⟩
  · exact hsame
  · exact absurd hcall.latest.symm (h.passed task.id task hcall.found)

theorem run_calls (h : Retired session) (haccounted : Accounted session) (steps : List (Step α)) :
    (session.run steps).calls .search = session.calls .search := by
  suffices hkept : Retired (session.run steps) ∧
      (session.run steps).calls .search = session.calls .search from hkept.2
  induction steps using List.reverseRecOn with
  | nil => exact ⟨h, rfl⟩
  | append_singleton steps action ih =>
      obtain ⟨hretired, hcalls⟩ := ih
      have heffect := step_effect (session.run steps) action
      rw [run_concat]
      exact ⟨hretired.effect (haccounted.along steps) heffect,
        (hretired.calls heffect).trans hcalls⟩

end Retired

theorem tasks_of_input {session : Session α} (h : session.selector.mounted = false)
    (query : String) : (session.step (.input query)).tasks = session.tasks := by
  cases step_effect session (.input query) with
  | aside _ hsame => exact hsame.tasks
  | typed hmounted => exact absurd (h.symm.trans hmounted) Bool.false_ne_true
  | took _ haction => rcases haction with haction | haction <;> cases haction

theorem tasks_of_value {session : Session α} (h : session.selector.mounted = false)
    (selection : Selection) : (session.step (.value selection)).tasks = session.tasks := by
  cases step_effect session (.value selection) with
  | aside _ hsame => exact hsame.tasks
  | asked hstarts =>
      rw [startsLookup, seesTo, h] at hstarts
      cases hstarts
  | took _ haction => rcases haction with haction | haction <;> cases haction

/-- In every run that has an unmount, what the selector shows and remembers stays from then on as it
was, it is not loading and does not come into the error state, the host takes no update, no task is
started, and no search makes its call. -/
theorem unmount_is_final (profile : Profile α) (before after : List (Step α)) :
    let left := (start profile).run before
    let session := (start profile).run (before ++ .unmount :: after)
    session.selector.options = left.selector.options ∧
    session.selector.labels = left.selector.labels ∧
    session.selector.labelsFor = left.selector.labelsFor ∧
    session.selector.query = left.selector.query ∧
    session.selector.mounted = false ∧ session.selector.loading = false ∧
    (∀ action, (session.step action).selector.hasError = true →
      session.selector.hasError = true) ∧
    session.poll.2 = false ∧ session.nextUpdate.2 = .closed ∧
    (∀ query, (session.step (.input query)).tasks = session.tasks) ∧
    (∀ selection, (session.step (.value selection)).tasks = session.tasks) ∧
    session.calls .search = left.calls .search := by
  intro left session
  have hleft : Accounted left := Accounted.run profile before
  have heffect : Effect left .unmount (left.step .unmount) := step_effect left .unmount
  have hrun : session = (left.step .unmount).run after :=
    run_append (start profile) before (.unmount :: after)
  have hgone : Selector.Frozen left.selector (left.step .unmount).selector :=
    ⟨rfl, rfl, rfl, rfl, rfl, id⟩
  have hfrozen : Selector.Frozen left.selector session.selector :=
    hrun ▸ hgone.trans (run_frozen hgone.unmounted after)
  have hmounted : session.selector.mounted = false := hfrozen.unmounted
  have haccounted : Accounted session := Accounted.run profile (before ++ .unmount :: after)
  have hidle : session.selector.loading = false := by
    refine Bool.eq_false_iff.2 fun hloading => ?_
    rw [(haccounted.loading.1 hloading).1] at hmounted
    cases hmounted
  have hempty : session.channel = [] := by
    have hplaces := ((Queued.run profile (before ++ .unmount :: after)).closed hmounted).2
    exact List.length_eq_zero_iff.1 (Nat.eq_zero_of_add_eq_zero_right hplaces)
  have hpoll : session.poll.2 = false := by
    rw [poll, hempty]
    rfl
  have hnext : session.nextUpdate.2 = .closed := by simp [nextUpdate, hmounted]
  have hcalls : session.calls .search = left.calls .search := by
    have hretired := (Retired.unmount hleft heffect).run_calls (hleft.effect heffect) after
    rw [hrun, hretired]
    cases heffect with
    | unmounted hsame => exact hsame.calls .search
    | aside hstalls => exact absurd hstalls id
    | took _ haction => rcases haction with haction | haction <;> cases haction
  exact ⟨hfrozen.options, hfrozen.labels, hfrozen.labelsFor, hfrozen.query, hmounted, hidle,
    fun action => (step_frozen hmounted action).error, hpoll, hnext, tasks_of_input hmounted,
    tasks_of_value hmounted, hcalls⟩

/-- At the unmount one search is under way and another still waits for its time, the outcome of a
lookup is in the channel, and the host waits for a search of its own. -/
def busyRun : List (Step SelectOption) :=
  [.input "a", .wait 400, .wake 1, .value (.single "x"), .wake 2, .answer 2 (sampleResponse "x"),
    .input "b", .resolve]

/-- All of it comes to its end, and the host goes on as if nothing had happened. -/
def afterUnmount : List (Step SelectOption) :=
  [.finish (sampleResponse "x"), .answer 1 (sampleResponse "a"), .wait 400, .wake 3, .poll,
    .input "c", .wait 400, .wake 5, .value (.single "y"), .search "d", .finish sampleFailure]

theorem busy_unmount_is_final :
    let left := (start sampleProfile).run busyRun
    let session := (start sampleProfile).run (busyRun ++ .unmount :: afterUnmount)
    left.channel.map Outcome.key = [(.lookup, 2)] ∧
    left.outstanding = [(.search, 1), (.search, 3), (.lookup, 2)] ∧
    session.selector.options = left.selector.options ∧
    session.selector.labels = left.selector.labels ∧
    session.selector.loading = false ∧ session.poll.2 = false ∧
    session.calls .search = left.calls .search ∧ left.calls .search = [(1, "a")] := by
  obtain ⟨hoptions, hlabels, -, -, -, hidle, -, hpoll, -, -, -, hcalls⟩ :=
    unmount_is_final sampleProfile busyRun afterUnmount
  exact ⟨by decide, by decide, hoptions, hlabels, hidle, hpoll, hcalls, by decide⟩

end Session

end IssueDesk
