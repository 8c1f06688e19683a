import IssueDesk.Proofs.SelectorSelection
import IssueDesk.Selector.Rehearsal
import Mathlib.Algebra.GroupWithZero.Nat

/-! A rehearsal plays a session by its steps. Between two things that the host does it makes steps
of the tasks alone, in an order of its own (`GoesOn`), until no task is left that could run: with
each step a task comes nearer to its end (`effort`). The host's actions are steps as they stand,
since the host waits for no search of its own when it comes to the next one (`Rests`). So a session
that has been rehearsed is one that a run of steps leads to, and what holds at the end of every run
holds of it. -/

namespace IssueDesk

open Wire

/-- A step that the tasks make, or the passing of time. -/
def Step.isOfTasks : Step α → Bool
  | .wake _ | .answer _ _ | .send _ | .wait _ => true
  | _ => false

/-- The step of the session that an action of the host is. -/
def HostAction.step : HostAction → Step α
  | .input query => .input query
  | .setValue selection => .value selection
  | .poll => .poll
  | .unmount => .unmount

/-- How often a task may still run. -/
def Task.effort (task : Task) : Nat :=
  match task.stage with
  | .pending _ => 3
  | .awaiting => 2
  | .blocked _ | .granted _ => 1

theorem Task.effort_bounds (task : Task) : 0 < task.effort ∧ task.effort ≤ 3 := by
  unfold effort
  cases task.stage <;> simp

namespace Session

variable {profile : Profile α} {session session' later : Session α}

/-- What holds at the end of every run holds in every state that can be reached. -/
theorem reachable_iff :
    Reachable profile session ↔ ∃ steps, session = (start profile).run steps := by
  constructor
  · intro h
    induction h with
    | start => exact ⟨[], rfl⟩
    | step _ action ih =>
        obtain ⟨steps, rfl⟩ := ih
        exact ⟨steps ++ [action], (run_concat _ steps action).symm⟩
  · rintro ⟨steps, rfl⟩
    induction steps using List.reverseRecOn with
    | nil => exact .start
    | append_singleton steps action ih =>
        rw [run_concat]
        exact .step ih action

theorem Reachable.run (h : Reachable profile session) (steps : List (Step α)) :
    Reachable profile (session.run steps) := by
  obtain ⟨before, rfl⟩ := reachable_iff.1 h
  exact reachable_iff.2 ⟨before ++ steps, (run_append _ before steps).symm⟩

theorem Reachable.accounted (h : Reachable profile session) : Accounted session := by
  obtain ⟨steps, rfl⟩ := reachable_iff.1 h
  exact Accounted.run profile steps

/-- One session comes out of another by steps of the tasks. -/
def GoesOn (session later : Session α) : Prop :=
  ∃ steps : List (Step α), (∀ action ∈ steps, action.isOfTasks = true) ∧
    later = session.run steps

namespace GoesOn

theorem refl (session : Session α) : GoesOn session session := ⟨[], nofun, rfl⟩

theorem step (session : Session α) (action : Step α) (h : action.isOfTasks = true) :
    GoesOn session (session.step action) :=
  ⟨[action], fun _ hmem => List.mem_singleton.1 hmem ▸ h, rfl⟩

theorem trans (h : GoesOn session session') (hlater : GoesOn session' later) :
    GoesOn session later := by
  obtain ⟨steps, hsteps, rfl⟩ := h
  obtain ⟨more, hmore, rfl⟩ := hlater
  refine ⟨steps ++ more, fun action hmem => ?_, (run_append session steps more).symm⟩
  exact (List.mem_append.1 hmem).elim (hsteps action) (hmore action)

theorem reachable (h : GoesOn session later) (hreachable : Reachable profile session) :
    Reachable profile later := by
  obtain ⟨steps, -, rfl⟩ := h
  exact hreachable.run steps

/-- The host goes on waiting for its search, or for none. -/
theorem direct (h : GoesOn session later) : later.direct = session.direct := by
  obtain ⟨steps, hsteps, rfl⟩ := h
  induction steps generalizing session with
  | nil => rfl
  | cons action rest ih =>
      have hrest : ((session.step action).run rest).direct = (session.step action).direct :=
        ih fun other hmem => hsteps other (List.mem_cons_of_mem action hmem)
      have hkept : session.directAfter action = session.direct := by
        have haction := hsteps action List.mem_cons_self
        cases action <;> first | rfl | cases haction
      exact hrest.trans ((step_direct session action).trans hkept)

end GoesOn

/-- A state that can be reached and in which the host waits for no search of its own. -/
structure Rests (profile : Profile α) (session : Session α) : Prop where
  reachable : Reachable profile session
  direct : session.direct = none

namespace Rests

theorem start (profile : Profile α) : Rests profile (start profile) := ⟨.start, rfl⟩

theorem goesOn (h : Rests profile session) (hlater : GoesOn session later) :
    Rests profile later :=
  ⟨hlater.reachable h.reachable, hlater.direct.trans h.direct⟩

theorem abandon_eq (h : Rests profile session) : session.abandon = session := by
  rw [abandon, ← h.direct]

theorem step (h : Rests profile session) (action : Step α)
    (hdirect : session.directAfter action = none) : Rests profile (session.step action) :=
  ⟨.step h.reachable action, (step_direct session action).trans hdirect⟩

end Rests

/-- How often the tasks may still run. -/
def effort (session : Session α) : Nat := (session.tasks.map Task.effort).sum

theorem effort_le (session : Session α) : session.effort ≤ 3 * session.tasks.length := by
  unfold effort
  induction session.tasks with
  | nil => exact Nat.le_refl 0
  | cons task rest ih =>
      obtain ⟨-, hfirst⟩ := task.effort_bounds
      simp only [List.map_cons, List.sum_cons, List.length_cons]
      omega

theorem effort_remove (h : Accounted session) {task : Task} (hmem : task ∈ session.tasks) :
    (session.remove task.id).effort + task.effort = session.effort := by
  have hperm := (Task.perm_cons_filter_id (tasks_nodup h.nodup) hmem).map Task.effort
  rw [effort, effort, hperm.sum_nat, List.map_cons, List.sum_cons, Nat.add_comm]
  rfl

theorem effort_move (h : Accounted session) {task : Task} (hmem : task ∈ session.tasks)
    (stage : Stage) :
    (session.move task stage).effort + task.effort =
      session.effort + { task with stage }.effort := by
  have hspawn : (session.move task stage).effort =
      (session.remove task.id).effort + { task with stage }.effort := by
    simp [effort, move, spawn]
  have hremove := effort_remove h hmem
  omega

/-- A task is woken when its time has come: it goes on or ends. -/
theorem effort_wake (h : Accounted session) {task : Task} {due : Nat}
    (hmem : task ∈ session.tasks) (hstage : task.stage = .pending due) (hdue : due ≤ session.now) :
    (session.wake task.id).effort < session.effort := by
  have htask := task?_of_mem (tasks_nodup h.nodup) hmem
  have hremove := effort_remove h hmem
  have hmove := effort_move h hmem .awaiting
  have hpos := task.effort_bounds
  have heffect := wake_effect session task.id
  generalize session.wake task.id = session' at heffect
  cases heffect with
  | aside hstalls => exact absurd (hstalls task due htask hstage) (Nat.not_lt.2 hdue)
  | took _ haction => rcases haction with haction | haction <;> cases haction
  | called hfound _ _ _ hsame =>
      cases htask.symm.trans hfound
      have hcalled : session'.effort = (session.move task .awaiting).effort :=
        congrArg (fun tasks => (tasks.map Task.effort).sum) hsame.tasks
      simp only [Task.effort, hstage] at hmove
      omega
  | superseded => omega

/-- An answer takes the task that waits for it on. -/
theorem effort_answer (h : Accounted session) {task : Task} (hmem : task ∈ session.tasks)
    (hstage : task.stage = .awaiting) (response : Except CallFailure (Envelope α)) :
    (session.answer task.id response).effort < session.effort := by
  have htask := task?_of_mem (tasks_nodup h.nodup) hmem
  have hremove := effort_remove h hmem
  have hpos := task.effort_bounds
  have heffect := answer_effect session task.id response
  generalize session.answer task.id response = session' at heffect
  cases heffect with
  | aside hstalls =>
      have hawaits : session.awaits task.id = true := awaits_iff.2 ⟨task, htask, hstage⟩
      cases hawaits.symm.trans hstalls
  | took _ haction => rcases haction with haction | haction <;> cases haction
  | sent =>
      show (session.remove task.id).effort < session.effort
      omega
  | blocked hfound =>
      cases htask.symm.trans hfound
      have hmove := effort_move h hmem (.blocked (session.profile.source.fetch task.query response))
      simp only [Task.effort, hstage] at hmove
      omega
  | lost => omega

theorem effort_send (h : Accounted session) {task : Task} {answer : Answer}
    (hmem : task ∈ session.tasks) (hstage : task.stage = .granted answer) :
    (session.send task.id).effort < session.effort := by
  have hremove := effort_remove h hmem
  have hpos := task.effort_bounds
  have hsend : (session.send task.id).effort = (session.remove task.id).effort := by
    simp only [send, task?_of_mem (tasks_nodup h.nodup) hmem, hstage]
    rfl
  omega

end Session

namespace Rehearsal

open Session

variable {profile : Profile α} {rehearsal : Rehearsal α}

/-! What the tasks do in a rehearsal. -/

theorem wake_goesOn (rehearsal : Rehearsal α) (id : Nat) (query : String) :
    GoesOn rehearsal.session (rehearsal.wake id query).session := by
  have hwoken : GoesOn rehearsal.session (rehearsal.session.wake id) :=
    .step rehearsal.session (.wake id) rfl
  unfold wake
  dsimp only [nextReply]
  split
  · exact hwoken
  · split
    · exact hwoken
    · exact hwoken.trans (.step _ (.answer id _) rfl)
    · exact hwoken

theorem runTask_goesOn (rehearsal : Rehearsal α) (task : Task) :
    GoesOn rehearsal.session (rehearsal.runTask task).session := by
  unfold runTask
  cases task.stage with
  | pending due => exact rehearsal.wake_goesOn task.id task.query
  | granted answer => exact .step _ (.send task.id) rfl
  | awaiting =>
      dsimp only
      split
      · exact .step _ (.answer task.id _) rfl
      · exact .refl _
  | blocked answer => exact .refl _

theorem settleFor_goesOn (fuel : Nat) (rehearsal : Rehearsal α) :
    GoesOn rehearsal.session (settleFor fuel rehearsal).session := by
  induction fuel generalizing rehearsal with
  | zero => exact .refl _
  | succ fuel ih =>
      rw [settleFor]
      split
      next task _ => exact (rehearsal.runTask_goesOn task).trans (ih _)
      next => exact .refl _

theorem settle_goesOn (rehearsal : Rehearsal α) :
    GoesOn rehearsal.session rehearsal.settle.session :=
  settleFor_goesOn _ rehearsal

theorem effort_wake_le (h : Reachable profile rehearsal.session) (id : Nat) (query : String) :
    (rehearsal.wake id query).session.effort ≤ (rehearsal.session.wake id).effort := by
  have hwoken : Reachable profile (rehearsal.session.wake id) := .step h (.wake id)
  unfold wake
  dsimp only [nextReply]
  split
  next => exact Nat.le_refl _
  next hawaits =>
    split
    · exact Nat.le_refl _
    · simp only [isAwaiting, Bool.not_eq_true', Bool.not_eq_false] at hawaits
      obtain ⟨task, htask, hstage⟩ := awaits_iff.1 hawaits
      obtain ⟨hmem, rfl⟩ := mem_of_task? htask
      exact Nat.le_of_lt (effort_answer hwoken.accounted hmem hstage _)
    · exact Nat.le_refl _

theorem effort_runTask (h : Reachable profile rehearsal.session) {task : Task}
    (hmem : task ∈ rehearsal.session.tasks) (hready : rehearsal.isReady task = true) :
    (rehearsal.runTask task).session.effort < rehearsal.session.effort := by
  unfold isReady dueTime at hready
  unfold runTask
  cases hstage : task.stage with
  | pending due =>
      rw [hstage] at hready
      have hdue : due ≤ rehearsal.session.now := by simpa using hready
      exact Nat.lt_of_le_of_lt (effort_wake_le h task.id task.query)
        (effort_wake h.accounted hmem hstage hdue)
  | awaiting =>
      rw [hstage] at hready
      cases hfound : rehearsal.deliveries.find? (·.id == task.id) with
      | none => simp [hfound] at hready
      | some delivery => exact effort_answer h.accounted hmem hstage delivery.response
  | granted answer => exact effort_send h.accounted hmem hstage
  | blocked answer => simp [hstage] at hready

theorem settleFor_idle {fuel : Nat} (h : Reachable profile rehearsal.session)
    (hfuel : rehearsal.session.effort ≤ fuel) :
    let settled := settleFor fuel rehearsal
    ∀ task ∈ settled.session.tasks, settled.isReady task = false := by
  induction fuel generalizing rehearsal with
  | zero =>
      intro settled task (hmem : task ∈ rehearsal.session.tasks)
      have hremove := effort_remove h.accounted hmem
      have hpos := task.effort_bounds
      omega
  | succ fuel ih =>
      rw [settleFor]
      split
      next task hfound =>
        have hmem := List.mem_of_find?_eq_some hfound
        have hready : rehearsal.isReady task = true := List.find?_some hfound
        have hrun := effort_runTask h hmem hready
        exact ih ((rehearsal.runTask_goesOn task).reachable h) (by omega)
      next hnone =>
        intro settled task hmem
        exact Bool.eq_false_iff.2 (List.find?_eq_none.1 hnone task hmem)

/-- A rehearsal that settles leaves no task that could run. -/
theorem settle_idle (rehearsal : Rehearsal α) (h : Reachable profile rehearsal.session) :
    ∀ task ∈ rehearsal.settle.session.tasks, rehearsal.settle.isReady task = false :=
  settleFor_idle h rehearsal.session.effort_le

theorem moveTo_goesOn (rehearsal : Rehearsal α) (time : Nat) :
    GoesOn rehearsal.session (rehearsal.moveTo time).session :=
  .step _ (.wait _) rfl

/-- Time comes to a moment, and the tasks run as far as they can. -/
theorem arrive_goesOn (rehearsal : Rehearsal α) (time : Nat) :
    GoesOn rehearsal.session (rehearsal.moveTo time).settle.session :=
  (rehearsal.moveTo_goesOn time).trans (settle_goesOn _)

theorem advanceFor_goesOn (fuel : Nat) (rehearsal : Rehearsal α) (target : Nat) :
    GoesOn rehearsal.session (advanceFor fuel rehearsal target).session := by
  induction fuel generalizing rehearsal with
  | zero => exact rehearsal.arrive_goesOn target
  | succ fuel ih =>
      have hsettled := rehearsal.settle_goesOn
      rw [advanceFor]
      split
      next time _ =>
        split
        · exact hsettled.trans ((moveTo_goesOn _ time).trans (ih _))
        · exact hsettled.trans (arrive_goesOn _ target)
      next => exact hsettled.trans (arrive_goesOn _ target)

theorem advanceTo_goesOn (rehearsal : Rehearsal α) (target : Nat) :
    GoesOn rehearsal.session (rehearsal.advanceTo target).session :=
  advanceFor_goesOn _ rehearsal target

/-! What the host does in a rehearsal. -/

theorem act_session (h : Rests profile rehearsal.session) (action : HostAction) :
    (rehearsal.act action).1.session = rehearsal.session.step action.step := by
  cases action <;> simp only [act, HostAction.step, Session.step, h.abandon_eq]

theorem act_rests (h : Rests profile rehearsal.session) (action : HostAction) :
    Rests profile (rehearsal.act action).1.session := by
  rw [act_session h]
  refine h.step action.step ?_
  cases action <;> rfl

theorem actAll_rests (h : Rests profile rehearsal.session) (actions : List HostAction) :
    Rests profile (rehearsal.actAll actions).1.session := by
  induction actions generalizing rehearsal with
  | nil => exact h
  | cons action rest ih => exact ih (act_rests h action)

theorem awaitFor_rests (fuel : Nat) (h : Rests profile rehearsal.session) (deadline : Nat) :
    Rests profile (awaitFor fuel rehearsal deadline).1.session := by
  induction fuel generalizing rehearsal with
  | zero => exact h.goesOn (rehearsal.arrive_goesOn deadline)
  | succ fuel ih =>
      have hnext : Rests profile rehearsal.session.nextUpdate.1 := by
        rw [← h.abandon_eq]
        exact h.step .next rfl
      rw [awaitFor]
      generalize rehearsal.session.nextUpdate = heard at hnext ⊢
      obtain ⟨session, update⟩ := heard
      cases update with
      | applied kind => exact hnext
      | closed => exact hnext
      | waiting =>
          dsimp only at hnext ⊢
          have hsettled := hnext.goesOn (settle_goesOn { rehearsal with session })
          split
          · exact ih hsettled
          · split
            · split
              · exact ih (hsettled.goesOn (arrive_goesOn _ _))
              · exact hsettled.goesOn (arrive_goesOn _ deadline)
            · exact hsettled.goesOn (arrive_goesOn _ deadline)

theorem await_rests (h : Rests profile rehearsal.session) :
    Rests profile rehearsal.await.1.session :=
  awaitFor_rests _ h _

theorem finish_rests (h : Reachable profile rehearsal.session)
    (content : Except CallFailure Json) :
    Rests profile (rehearsal.finish content).1.session :=
  ⟨.step h (.finish (rehearsal.read content)),
    step_direct rehearsal.session (.finish (rehearsal.read content))⟩

/-- A search of the host ends with its answer, or it is given up. Until then the tasks alone go
on. -/
theorem searchNow_rests {query : String} {resolves : Bool}
    (h : Reachable profile (rehearsal.session.beginSearch query resolves)) :
    Rests profile (rehearsal.searchNow query resolves).1.session := by
  have hgiveUp : ∀ (begun : Rehearsal α) (target : Nat), Reachable profile begun.session →
      Rests profile (begun.advanceTo target).session.abandon := fun begun target hbegun =>
    ⟨.step ((begun.advanceTo_goesOn target).reachable hbegun) .abandon, rfl⟩
  unfold searchNow
  dsimp only [nextReply]
  split
  · exact hgiveUp _ _ h
  · exact finish_rests h _
  · split
    · exact hgiveUp _ _ h
    · exact finish_rests ((advanceTo_goesOn _ _).reachable h) _

/-- A rehearsal between two of its steps: the session is at rest, and no task could run. -/
structure Settled (profile : Profile α) (rehearsal : Rehearsal α) : Prop where
  rests : Rests profile rehearsal.session
  idle : ∀ task ∈ rehearsal.session.tasks, rehearsal.isReady task = false

theorem settled_start (profile : Profile α) (codec : Codec α) (script : BackendScript) :
    Settled profile { codec, script, session := start profile } := ⟨.start profile, nofun⟩

theorem settle_settled (h : Rests profile rehearsal.session) : Settled profile rehearsal.settle :=
  ⟨h.goesOn rehearsal.settle_goesOn, rehearsal.settle_idle h.reachable⟩

/-- The session comes to rest again with each step of a rehearsal. -/
theorem play_settled (h : Rests profile rehearsal.session) (step : RehearsalStep) :
    Settled profile (rehearsal.play step).1 := by
  cases step with
  | act action => exact settle_settled (act_rests h action)
  | batch actions => exact settle_settled (actAll_rests h actions)
  | advance ms => exact settle_settled (h.goesOn (rehearsal.advanceTo_goesOn _))
  | next => exact settle_settled (await_rests h)
  | search query =>
      refine settle_settled (searchNow_rests ?_)
      rw [← h.abandon_eq]
      exact .step h.reachable (.search query)
  | resolve =>
      unfold play
      dsimp only
      split
      next => exact settle_settled h
      next hselected =>
        have hresolve : rehearsal.session.step .resolve =
            rehearsal.session.beginSearch "" true := by
          show rehearsal.session.abandon.beginResolve = _
          rw [h.abandon_eq, beginResolve, if_neg hselected]
        exact settle_settled (searchNow_rests (hresolve ▸ .step h.reachable .resolve))

/-- All steps of a rehearsal. -/
def playAll (rehearsal : Rehearsal α) (steps : List RehearsalStep) : Rehearsal α :=
  steps.foldl (fun rehearsal step => (rehearsal.play step).1) rehearsal

theorem playAll_settled (h : Settled profile rehearsal) (steps : List RehearsalStep) :
    Settled profile (rehearsal.playAll steps) := by
  induction steps generalizing rehearsal with
  | nil => exact h
  | cons step rest ih => exact ih (play_settled h.rests step)

/-- Whatever the backend's script, a selector that is rehearsed comes to a state at the end of a run
from its start, and to one in which no task could run. -/
theorem exists_run_playAll (profile : Profile α) (codec : Codec α) (script : BackendScript)
    (steps : List RehearsalStep) :
    let rehearsal : Rehearsal α := { codec, script, session := start profile }
    let played := rehearsal.playAll steps
    (∃ actions, played.session = (start profile).run actions) ∧
      ∀ task ∈ played.session.tasks, played.isReady task = false := by
  intro rehearsal played
  have hsettled := playAll_settled (settled_start profile codec script) steps
  exact ⟨reachable_iff.1 hsettled.rests.reachable, hsettled.idle⟩

end Rehearsal

end IssueDesk
