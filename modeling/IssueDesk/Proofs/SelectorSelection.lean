import IssueDesk.Proofs.SelectorKnownLabels
import IssueDesk.Proofs.SelectorUnmount

/-! What the host holds on to: the selection, and the search of its own that it waits for. The
selection is changed by setting one and by nothing else (`step_selection`), and a host that does
something else no longer waits for its search (`step_direct`). So while the selector is mounted, the
selection that labels were last tried for is the one that is held, unless that is empty
(`Remembers`): a finished search for the selection does not make the selector forget it. -/

namespace IssueDesk

namespace Session

/-- Two sessions agree in what the host holds on to. -/
structure SameHost (session session' : Session α) : Prop where
  selection : session'.selector.selection = session.selector.selection
  direct : session'.direct = session.direct

namespace SameHost

theorem refl (session : Session α) : SameHost session session := ⟨rfl, rfl⟩

theorem trans {first second third : Session α} (h : SameHost first second)
    (h' : SameHost second third) : SameHost first third :=
  ⟨h'.selection.trans h.selection, h'.direct.trans h.direct⟩

theorem reportError (session : Session α) (hasError : Bool) :
    SameHost session (session.reportError hasError) := by
  unfold Session.reportError
  split <;> exact ⟨rfl, rfl⟩

theorem settle (session : Session α) (query : String) (answer : Answer) :
    SameHost session (session.settle query answer).1 := by
  cases answer with
  | ok options => exact refl session
  | error error =>
      simp only [Session.settle]
      split
      · have hreport :=
          reportError (session.log (errorLevel error) error.message [("query", query)]) true
        exact ⟨hreport.selection, hreport.direct⟩
      · exact ⟨rfl, rfl⟩

theorem write (session : Session α) (outcome : Outcome) :
    SameHost session (session.write outcome) := by
  unfold Session.write
  cases outcome.kind with
  | search =>
      have hsettle := settle (session.update ({ · with loading := false }))
        session.selector.query outcome.answer
      exact ⟨hsettle.selection, hsettle.direct⟩
  | lookup =>
      have hsettle := settle session "" outcome.answer
      exact ⟨hsettle.selection, hsettle.direct⟩

theorem apply (session : Session α) (outcome : Outcome) :
    SameHost session (session.apply outcome).1 := by
  unfold Session.apply
  dsimp only
  split
  · exact refl session
  · split
    · exact write session outcome
    · exact ⟨rfl, rfl⟩

theorem applyAll (session : Session α) (outcomes : List Outcome) :
    SameHost session (session.applyAll outcomes).1 := by
  induction outcomes generalizing session with
  | nil => exact refl session
  | cons outcome rest ih => exact (apply session outcome).trans (ih _)

theorem receive (session : Session α) (outcome : Outcome) (rest : List Outcome) :
    SameHost session (session.receive outcome rest) := by
  unfold Session.receive
  rcases grant_cases ({ session with channel := rest }.emit (.received outcome.kind outcome.id))
    with ⟨-, h⟩ | ⟨task, answer, -, -, h⟩ <;> rw [h] <;> exact ⟨rfl, rfl⟩

theorem receiveAll (session : Session α) (outcomes : List Outcome) :
    SameHost session (session.receiveAll outcomes) := by
  induction outcomes generalizing session with
  | nil => exact refl session
  | cons outcome rest ih => exact (receive session outcome rest).trans (ih _)

theorem poll (session : Session α) : SameHost session session.poll.1 :=
  (receiveAll session session.channel).trans (applyAll _ _)

theorem takeUntilCurrent (session : Session α) (outcomes : List Outcome) :
    SameHost session (session.takeUntilCurrent outcomes).1 := by
  induction outcomes generalizing session with
  | nil => exact refl session
  | cons outcome rest ih =>
      have hfirst := (receive session outcome rest).trans (apply _ outcome)
      unfold Session.takeUntilCurrent
      dsimp only
      split
      · exact hfirst
      · exact hfirst.trans (ih _)

theorem nextUpdate (session : Session α) : SameHost session session.nextUpdate.1 := by
  unfold Session.nextUpdate
  split
  · exact refl session
  · exact takeUntilCurrent session session.channel

theorem inputChanged (session : Session α) (query : String) :
    SameHost session (session.inputChanged query) := by
  unfold Session.inputChanged
  split
  · exact refl session
  · have hreport := reportError (session.update ({ · with query })) false
    exact ⟨hreport.selection, hreport.direct⟩

theorem wake (session : Session α) (id : Nat) : SameHost session (session.wake id) := by
  unfold Session.wake
  cases session.task? id with
  | none => exact refl session
  | some task =>
      dsimp only
      split
      · split
        · exact refl session
        · split
          · split <;> exact ⟨rfl, rfl⟩
          · exact ⟨rfl, rfl⟩
      · exact refl session

theorem answer (session : Session α) (id : Nat)
    (response : Except CallFailure (Envelope α)) :
    SameHost session (session.answer id response) := by
  unfold Session.answer
  cases session.task? id with
  | none => exact refl session
  | some task =>
      dsimp only
      split
      · split
        · exact ⟨rfl, rfl⟩
        · split <;> exact ⟨rfl, rfl⟩
      · exact refl session

theorem send (session : Session α) (id : Nat) : SameHost session (session.send id) := by
  unfold Session.send
  cases session.task? id with
  | none => exact refl session
  | some task =>
      dsimp only
      split <;> exact ⟨rfl, rfl⟩

end SameHost

/-- What the host holds after a step. -/
def selectionAfter (session : Session α) : Step α → Selection
  | .value selection => selection.fit session.profile.multi
  | _ => session.selector.selection

/-- The search that the host waits for after a step. -/
def directAfter (session : Session α) : Step α → Option DirectSearch
  | .search query => some { query, resolves := false }
  | .resolve =>
      if session.selector.selection.isEmpty then none else some { query := "", resolves := true }
  | .wake _ | .answer _ _ | .send _ | .wait _ => session.direct
  | _ => none

theorem setValue_direct (session : Session α) (selection : Selection) :
    (session.setValue selection).direct = session.direct := by
  have hhold : (session.hold selection).direct = session.direct := by
    unfold hold
    dsimp only
    split <;> rfl
  unfold setValue
  dsimp only
  split
  · exact hhold
  · split <;> exact hhold

theorem finishDirect_host (session : Session α) (response : Except CallFailure (Envelope α)) :
    (session.finishDirect response).1.selector.selection = session.selector.selection ∧
      (session.finishDirect response).1.direct = none := by
  unfold finishDirect
  cases hdirect : session.direct with
  | none => exact ⟨rfl, hdirect⟩
  | some direct =>
      have hsettle := SameHost.settle { session with direct := none } direct.query
        (session.profile.source.fetch direct.query response)
      dsimp only
      split <;> exact ⟨hsettle.selection, hsettle.direct⟩

/-- Only a selection that is set changes what is held. -/
theorem step_selection (session : Session α) (action : Step α) :
    (session.step action).selector.selection = session.selectionAfter action := by
  cases action with
  | input query => exact (SameHost.inputChanged session.abandon query).selection
  | value selection => exact step_value_selection session selection
  | poll => exact (SameHost.poll session.abandon).selection
  | next => exact (SameHost.nextUpdate session.abandon).selection
  | search query => exact (SameHost.reportError session.abandon false).selection
  | resolve =>
      simp only [step, beginResolve]
      split
      · rfl
      · exact (SameHost.reportError session.abandon false).selection
  | finish response => exact (finishDirect_host session response).1
  | wake id => exact (SameHost.wake session id).selection
  | answer id response => exact (SameHost.answer session id response).selection
  | send id => exact (SameHost.send session id).selection
  | unmount => rfl
  | abandon => rfl
  | wait ms => rfl

/-- The host waits for its search while it does nothing else. -/
theorem step_direct (session : Session α) (action : Step α) :
    (session.step action).direct = session.directAfter action := by
  cases action with
  | input query => exact (SameHost.inputChanged session.abandon query).direct
  | value selection => exact setValue_direct session.abandon selection
  | poll => exact (SameHost.poll session.abandon).direct
  | next => exact (SameHost.nextUpdate session.abandon).direct
  | resolve =>
      show session.abandon.beginResolve.direct = _
      unfold beginResolve directAfter
      cases hempty : session.selector.selection.isEmpty with
      | true => rw [if_pos (show session.abandon.selector.selection.isEmpty = true from hempty)]; rfl
      | false => rw [if_neg (by simp [abandon, hempty])]; rfl
  | finish response => exact (finishDirect_host session response).2
  | wake id => exact (SameHost.wake session id).direct
  | answer id response => exact (SameHost.answer session id response).direct
  | send id => exact (SameHost.send session id).direct
  | search query => rfl
  | unmount => rfl
  | abandon => rfl
  | wait ms => rfl

/-- A selection that is held and not empty is the one that labels were last tried for, and the host
resolves no selection that is empty. -/
structure Remembers (session : Session α) : Prop where
  held : session.selector.mounted = true → session.selector.selection.isEmpty = false →
    session.selector.labelsFor = some session.selector.selection
  resolving : ∀ direct, session.direct = some direct → direct.resolves = true →
    session.selector.selection.isEmpty = false

/-- What is seen to is not empty, and it is not what was seen to last. -/
theorem seesTo_iff {session : Session α} {selection : Selection} :
    session.seesTo selection = true ↔ session.selector.mounted = true ∧
      (selection.fit session.profile.multi).isEmpty = false ∧
        session.selector.labelsFor ≠ some (selection.fit session.profile.multi) := by
  simp only [seesTo, Bool.and_eq_true, Bool.not_eq_true', bne_iff_ne, ne_eq, and_assoc]

namespace Remembers

variable {session : Session α}

theorem start (profile : Profile α) : Remembers (start profile) := ⟨nofun, nofun⟩

/-- A search for the selection is finished for the selection that is remembered already. -/
theorem seenTo_finish (h : Remembers session) {response : Except CallFailure (Envelope α)}
    {selection : Selection} (hseen : session.seenTo? (.finish response) = some selection) :
    session.selector.labelsFor = some selection := by
  unfold seenTo? at hseen
  cases hdirect : session.direct with
  | none => simp [hdirect] at hseen
  | some direct =>
      rw [hdirect] at hseen
      dsimp only at hseen
      split at hseen
      next hresolves =>
        rw [Bool.and_eq_true] at hresolves
        cases hseen
        exact h.held hresolves.2 (h.resolving direct hdirect hresolves.1)
      next => cases hseen

theorem step (h : Remembers session) (action : Step α) : Remembers (session.step action) := by
  refine ⟨fun hmounted' hsome => ?_, fun direct hdirect hresolves => ?_⟩
  · have hmounted : session.selector.mounted = true := by
      by_contra hclosed
      rw [(step_frozen (by simpa using hclosed) action).unmounted] at hmounted'
      cases hmounted'
    rw [step_selection] at hsome ⊢
    rw [step_labelsFor]
    cases action with
    | value selection =>
        rw [seenTo?]
        split
        next => rfl
        next hunseen =>
          by_contra hlabels
          exact hunseen (seesTo_iff.2 ⟨hmounted, hsome, hlabels⟩)
    | finish response =>
        have hheld := h.held hmounted hsome
        cases hseen : session.seenTo? (.finish response) with
        | none => exact hheld
        | some selection => exact (h.seenTo_finish hseen).symm.trans hheld
    | _ => exact h.held hmounted hsome
  · rw [step_direct] at hdirect
    rw [step_selection]
    cases action with
    | search query =>
        cases hdirect
        cases hresolves
    | resolve =>
        rw [directAfter] at hdirect
        split at hdirect
        next => cases hdirect
        next hsome => exact Bool.eq_false_iff.2 hsome
    | wake id => exact h.resolving direct hdirect hresolves
    | answer id response => exact h.resolving direct hdirect hresolves
    | send id => exact h.resolving direct hdirect hresolves
    | wait ms => exact h.resolving direct hdirect hresolves
    | _ => cases hdirect

theorem along (h : Remembers session) (steps : List (Step α)) : Remembers (session.run steps) := by
  induction steps using List.reverseRecOn with
  | nil => exact h
  | append_singleton steps action ih =>
      rw [run_concat]
      exact ih.step action

theorem run (profile : Profile α) (steps : List (Step α)) :
    Remembers ((Session.start profile).run steps) :=
  (start profile).along steps

/-- What is remembered is forgotten only for another selection that is set and not empty. -/
theorem step_kept (h : Remembers session) {held : Selection}
    (hlabels : session.selector.labelsFor = some held) {action : Step α}
    (hother : ∀ other, action = .value other →
      (other.fit session.profile.multi).isEmpty = true ∨ other.fit session.profile.multi = held) :
    (session.step action).selector.labelsFor = some held := by
  rw [step_labelsFor]
  cases action with
  | value other =>
      have hunseen : ¬ session.seesTo other = true := by
        rw [seesTo_iff, hlabels]
        rintro ⟨-, hsome, hnew⟩
        rcases hother other rfl with hempty | hsame
        · exact Bool.false_ne_true (hsome.symm.trans hempty)
        · exact hnew (congrArg some hsame.symm)
      rw [seenTo?, if_neg hunseen]
      exact hlabels
  | finish response =>
      cases hseen : session.seenTo? (.finish response) with
      | none => exact hlabels
      | some selection => exact (h.seenTo_finish hseen).symm.trans hlabels
  | _ => exact hlabels

theorem run_kept (h : Remembers session) {held : Selection}
    (hlabels : session.selector.labelsFor = some held) {steps : List (Step α)}
    (hother : ∀ other, .value other ∈ steps →
      (other.fit session.profile.multi).isEmpty = true ∨ other.fit session.profile.multi = held) :
    (session.run steps).selector.labelsFor = some held := by
  induction steps using List.reverseRecOn with
  | nil => exact hlabels
  | append_singleton steps action ih =>
      have hbefore := ih fun other hmem => hother other (List.mem_append_left _ hmem)
      rw [run_concat]
      apply (h.along steps).step_kept hbefore
      rintro other rfl
      rw [run_profile]
      exact hother other (List.mem_append_right _ List.mem_cons_self)

end Remembers

end Session

end IssueDesk
