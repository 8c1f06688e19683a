import IssueDesk.Proofs.SelectorUnmount

/-! What the host still hears of the error state after an unmount. Nothing that is under way raises
it any more, and a keystroke is not taken. But a search of the host's own clears it before anything
else, mounted or not. So one thing can still be told, and once: that the error is over, when the
selector was unmounted in the error state and the host then searches or resolves a selection. Where
that does not happen the unmount is silent. -/

namespace IssueDesk

theorem ErrorChannel.report_false_eq_iff {channel : ErrorChannel} :
    channel.report false = channel ↔ ¬channel.hasError = true := by
  rw [Bool.not_eq_true]
  constructor
  · intro hsame
    rw [← hsame]
    exact channel.report_hasError false
  · exact report_of_eq

theorem ErrorChannel.report_false {channel : ErrorChannel} (h : channel.hasError = true) :
    channel.report false = ⟨false, channel.told ++ [false]⟩ :=
  if_neg (by rw [h]; exact Bool.noConfusion)

namespace Session

/-- A step starts a search of the host's own. A selection is resolved by one. -/
def startsDirect (session : Session α) : Step α → Bool
  | .search _ => true
  | .resolve => !session.selector.selection.isEmpty
  | _ => false

/-- The host starts a search of its own in a stretch of a run. -/
def SearchesIn (session : Session α) (steps : List (Step α)) : Prop :=
  ∃ earlier action later, steps = earlier ++ action :: later ∧
    (session.run earlier).startsDirect action = true

section

variable {session : Session α} (h : session.selector.mounted = false)
include h

theorem clearsError_of_unmounted (action : Step α) :
    session.clearsError action = session.startsDirect action := by
  cases action with
  | input query => exact h
  | _ => rfl

theorem alarm_of_unmounted (action : Step α) : session.alarm action = false := by
  refine Bool.eq_false_iff.2 fun halarm => ?_
  rw [(alarm_iff.1 halarm).mounted] at h
  cases h

/-- A step after the unmount is not told, unless it starts a search of the host's own. -/
theorem step_errorChannel_of_unmounted (action : Step α) :
    (session.step action).errorChannel =
      if session.startsDirect action then session.errorChannel.report false
      else session.errorChannel := by
  rw [step_errorChannel, clearsError_of_unmounted h, alarm_of_unmounted h]
  simp only [Bool.false_eq_true, if_false]

theorem keepsError_iff_of_unmounted (steps : List (Step α)) :
    session.KeepsError steps ↔ ¬session.SearchesIn steps := by
  have hstarts : ∀ earlier action, (session.run earlier).clearsError action =
      (session.run earlier).startsDirect action := fun earlier action =>
    clearsError_of_unmounted (run_frozen h earlier).unmounted action
  unfold KeepsError SearchesIn
  simp only [hstarts, not_exists, not_and, Bool.not_eq_true]

theorem searchesIn_concat (steps : List (Step α)) (action : Step α) :
    session.SearchesIn (steps ++ [action]) ↔
      session.SearchesIn steps ∨ (session.run steps).startsDirect action = true := by
  rw [← not_iff_not, not_or, ← keepsError_iff_of_unmounted h, ← keepsError_iff_of_unmounted h,
    keepsError_concat, clearsError_of_unmounted (run_frozen h steps).unmounted, Bool.not_eq_true]

theorem run_errorChannel_of_silent {steps : List (Step α)} (hsilent : ¬session.SearchesIn steps) :
    (session.run steps).errorChannel = session.errorChannel := by
  induction steps using List.reverseRecOn with
  | nil => rfl
  | append_singleton steps action ih =>
      rw [searchesIn_concat h, not_or] at hsilent
      rw [run_concat, step_errorChannel_of_unmounted (run_frozen h steps).unmounted,
        if_neg hsilent.2, ih hsilent.1]

/-- However often the host searches, it is told once. -/
theorem run_errorChannel_of_searches {steps : List (Step α)}
    (hsearches : session.SearchesIn steps) :
    (session.run steps).errorChannel = session.errorChannel.report false := by
  induction steps using List.reverseRecOn with
  | nil =>
      obtain ⟨earlier, action, later, hsplit, -⟩ := hsearches
      simp at hsplit
  | append_singleton steps action ih =>
      rw [run_concat, step_errorChannel_of_unmounted (run_frozen h steps).unmounted]
      by_cases hsteps : session.SearchesIn steps
      · rw [ih hsteps, ErrorChannel.report_of_eq (ErrorChannel.report_hasError _ false), ite_self]
      · have hstarts := ((searchesIn_concat h steps action).1 hsearches).resolve_left hsteps
        rw [if_pos hstarts, run_errorChannel_of_silent h hsteps]

end

theorem run_of_unmount (session : Session α) (before after : List (Step α)) :
    session.run (before ++ .unmount :: after) = ((session.run before).step .unmount).run after :=
  run_append session before (.unmount :: after)

/-- In every run that has an unmount, the error state and what the host is told of it stay from then
on as they were, unless the selector was in the error state and the host starts a search of its own
afterwards. Then it is told once, that the error is over. Of single steps only such a search can do
this, and only in the error state. -/
theorem silent_after_unmount_iff (profile : Profile α) (before after : List (Step α)) :
    let left := (start profile).run before
    let session := (start profile).run (before ++ .unmount :: after)
    (session.errorChannel = left.errorChannel ↔
      ¬(left.selector.hasError = true ∧ (left.step .unmount).SearchesIn after)) ∧
    (left.selector.hasError = true → (left.step .unmount).SearchesIn after →
      session.errorChannel = ⟨false, left.errorChannel.told ++ [false]⟩) ∧
    ∀ action,
      ((session.step action).errorChannel = session.errorChannel ↔
        ¬(session.selector.hasError = true ∧ session.startsDirect action = true)) := by
  intro left session
  have hgone : (left.step .unmount).selector.mounted = false := rfl
  have hchannel : (left.step .unmount).errorChannel = left.errorChannel :=
    errorChannel_log _ .debug "unmounted" []
  have hrun : session = (left.step .unmount).run after := run_of_unmount _ before after
  have hmounted : session.selector.mounted = false := hrun ▸ (run_frozen hgone after).unmounted
  have hsearched : (left.step .unmount).SearchesIn after →
      session.errorChannel = left.errorChannel.report false := by
    intro hsearches
    rw [hrun, run_errorChannel_of_searches hgone hsearches, hchannel]
  refine ⟨?_, fun herror hsearches => ?_, fun action => ?_⟩
  · by_cases hsearches : (left.step .unmount).SearchesIn after
    · rw [hsearched hsearches, ErrorChannel.report_false_eq_iff, and_iff_left hsearches]
      rfl
    · have hsilent : session.errorChannel = left.errorChannel := by
        rw [hrun, run_errorChannel_of_silent hgone hsearches, hchannel]
      exact iff_of_true hsilent fun hboth => hsearches hboth.2
  · rw [hsearched hsearches, ErrorChannel.report_false herror]
  · rw [step_errorChannel_of_unmounted hmounted]
    cases hstarts : session.startsDirect action with
    | true =>
        rw [if_pos rfl, ErrorChannel.report_false_eq_iff, and_iff_left rfl]
        rfl
    | false => simp

/-- A search that fails, and whose failure the host is told of. -/
def failedRun : List (Step SelectOption) :=
  [.input "a", .wait 400, .wake 1, .answer 1 sampleFailure, .poll]

/-- The host searches twice after the unmount, the first time without success. -/
def searchesAfterwards : List (Step SelectOption) :=
  [.input "b", .search "c", .finish sampleFailure, .search "d"]

theorem searches_afterwards_are_told_once :
    let left := (start sampleProfile).run failedRun
    let session := (start sampleProfile).run (failedRun ++ .unmount :: searchesAfterwards)
    let quiet := (start sampleProfile).run ([.input "a"] ++ .unmount :: searchesAfterwards)
    left.selector.hasError = true ∧ left.errorChannel.told = [true] ∧
      (left.step .unmount).SearchesIn searchesAfterwards ∧
      session.errorChannel = ⟨false, left.errorChannel.told ++ [false]⟩ ∧
      (session.step (.finish sampleFailure)).errorChannel = session.errorChannel ∧
      quiet.errorChannel = ((start sampleProfile).run [.input "a"]).errorChannel := by
  intro left session quiet
  obtain ⟨-, htold, hstep⟩ := silent_after_unmount_iff sampleProfile failedRun searchesAfterwards
  obtain ⟨hquiet, -, -⟩ := silent_after_unmount_iff sampleProfile [.input "a"] searchesAfterwards
  have herror : left.selector.hasError = true := by decide
  have hsearches : (left.step .unmount).SearchesIn searchesAfterwards :=
    ⟨[.input "b"], .search "c", [.finish sampleFailure, .search "d"], rfl, rfl⟩
  exact ⟨herror, by decide, hsearches, htold herror hsearches, (hstep _).2 (by decide),
    hquiet.2 fun hboth => absurd hboth.1 (by decide)⟩

/-- A search of the host's own is told after the unmount, and so is one that resolves a selection. -/
theorem search_after_unmount_is_told :
    (¬∀ (profile : Profile SelectOption) (before after : List (Step SelectOption)),
      ((start profile).run (before ++ .unmount :: after)).errorChannel =
        ((start profile).run before).errorChannel) ∧
    ((start sampleProfile).run failedRun).errorChannel = ⟨true, [true]⟩ ∧
    ((start sampleProfile).run (failedRun ++ [.unmount, .search "b"])).errorChannel =
      ⟨false, [true, false]⟩ ∧
    ((start sampleProfile).run
      (failedRun ++ [.unmount, .value (.single "x"), .resolve])).errorChannel =
        ⟨false, [true, false]⟩ := by
  refine ⟨fun h => ?_, by decide, by decide, by decide⟩
  exact absurd (h sampleProfile failedRun [.search "b"]) (by decide)

end Session

end IssueDesk
