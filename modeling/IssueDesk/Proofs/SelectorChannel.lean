import IssueDesk.Proofs.SelectorHistory
import Mathlib.Data.List.Basic

/-! The places of the channel. A place is filled, given away or free; a task waits for one only if
none is free (`Queued`), and those who wait are served in the order in which they came. -/

namespace IssueDesk

namespace Session

/-- How many tasks wait for a place in the channel. -/
def waiting (session : Session α) : Nat := session.tasks.countP Task.isBlocked

/-- How many places of the channel are filled or given away. -/
def places (session : Session α) : Nat :=
  session.channel.length + session.tasks.countP Task.isGranted

theorem freePlaces_eq (session : Session α) :
    session.freePlaces = channelCapacity - session.places := by
  rw [places, ← Nat.sub_sub]
  rfl

theorem countP_remove {session : Session α} {task : Task} (p : Task → Bool)
    (hnodup : (session.tasks.map Task.id).Nodup) (hmem : task ∈ session.tasks) :
    session.tasks.countP p =
      (session.remove task.id).tasks.countP p + if p task = true then 1 else 0 := by
  rw [(Task.perm_cons_filter_id hnodup hmem).countP_eq p, List.countP_cons]
  rfl

theorem countP_move {session : Session α} {task : Task} (p : Task → Bool) (stage : Stage)
    (hnodup : (session.tasks.map Task.id).Nodup) (hmem : task ∈ session.tasks) :
    (session.move task stage).tasks.countP p + (if p task = true then 1 else 0) =
      session.tasks.countP p + if p { task with stage } = true then 1 else 0 := by
  have hremove := countP_remove p hnodup hmem
  have hspawn : (session.move task stage).tasks.countP p =
      (session.remove task.id).tasks.countP p +
        if p { task with stage } = true then 1 else 0 := by
    simp only [move, spawn, List.countP_append, List.countP_singleton]
  omega

/-- A place that becomes free is given to a task that waits for one, if there is one. -/
theorem grant_counts (session : Session α) (hnodup : (session.tasks.map Task.id).Nodup) :
    (session.waiting = 0 ∧ session.grant.waiting = 0 ∧ session.grant.places = session.places) ∨
      (session.waiting = session.grant.waiting + 1 ∧
        session.grant.places = session.places + 1) := by
  rcases grant_cases session with ⟨hnone, hgrant⟩ | ⟨task, answer, hfound, hstage, hgrant⟩ <;>
    rw [hgrant]
  · have hzero : session.waiting = 0 :=
      List.countP_eq_zero.2 fun task hmem => by simp [hnone task hmem]
    exact Or.inl ⟨hzero, hzero, rfl⟩
  · have hmem := List.mem_of_find?_eq_some hfound
    have hblocked := countP_move Task.isBlocked (.granted answer) hnodup hmem
    have hgranted := countP_move Task.isGranted (.granted answer) hnodup hmem
    have hchannel : (session.move task (.granted answer)).channel = session.channel := rfl
    simp only [Task.isBlocked, Task.isGranted, hstage, if_true, Bool.false_eq_true, if_false,
      Nat.add_zero] at hblocked hgranted
    refine Or.inr ⟨hblocked.symm, ?_⟩
    rw [places, places, hchannel]
    exact congrArg (session.channel.length + ·) hgranted

/-- No more places are taken than there are; a task waits for a place only if none is free; and
after an unmount no task has an outcome to send. -/
structure Queued (session : Session α) : Prop where
  bound : session.places ≤ channelCapacity
  full : 0 < session.waiting → session.places = channelCapacity
  closed : session.selector.mounted = false → session.waiting = 0 ∧ session.places = 0

namespace Queued

variable {session session' : Session α}

theorem start (profile : Profile α) : Queued (start profile) where
  bound := Nat.zero_le _
  full h := absurd h (Nat.lt_irrefl 0)
  closed _ := ⟨rfl, rfl⟩

theorem of_counts (h : Queued session) (hplaces : session'.places = session.places)
    (hwaiting : session'.waiting = session.waiting)
    (hmounted : session'.selector.mounted = session.selector.mounted) : Queued session' where
  bound := hplaces ▸ h.bound
  full := by
    rw [hwaiting, hplaces]
    exact h.full
  closed := by
    rw [hwaiting, hplaces, hmounted]
    exact h.closed

theorem same (h : Queued session) (hsame : SameRequests session session')
    (hmounted : session'.selector.mounted = session.selector.mounted) : Queued session' := by
  refine h.of_counts ?_ ?_ hmounted
  · rw [places, places, hsame.channel, hsame.tasks]
  · rw [waiting, waiting, hsame.tasks]

theorem spawn (h : Queued session) {task : Task} {due : Nat} (hstage : task.stage = .pending due) :
    Queued (session.spawn task) := by
  have hblocked : task.isBlocked = false := by rw [Task.isBlocked, hstage]
  have hgranted : task.isGranted = false := by rw [Task.isGranted, hstage]
  refine h.of_counts ?_ ?_ rfl <;>
    simp [places, waiting, Session.spawn, List.countP_append, hblocked, hgranted]

/-- The place of an outcome that is taken out goes to a blocked task or becomes free. -/
theorem receive (h : Queued session) (hnodup : (session.tasks.map Task.id).Nodup)
    {outcome : Outcome} {rest : List Outcome} (hchannel : session.channel = outcome :: rest) :
    Queued (session.receive outcome rest) := by
  have hgrant := grant_counts (({ session with channel := rest } : Session α).emit
    (.received outcome.kind outcome.id)) hnodup
  have hplaces : session.places = (({ session with channel := rest } : Session α).emit
      (.received outcome.kind outcome.id)).places + 1 := by
    rw [places, hchannel, List.length_cons]
    exact Nat.add_right_comm _ _ _
  have hwaiting : (({ session with channel := rest } : Session α).emit
      (.received outcome.kind outcome.id)).waiting = session.waiting := rfl
  have hmounted : (session.receive outcome rest).selector.mounted = session.selector.mounted := by
    rw [receive_selector]
  have hbound := h.bound
  have hfull := h.full
  rw [Session.receive] at hmounted ⊢
  refine ⟨?_, ?_, fun hopen => ?_⟩
  · omega
  · omega
  · have hclosed := h.closed (hmounted ▸ hopen)
    omega

theorem takeOut {outcomes rest : List Outcome} (h : Queued session)
    (hnodup : (session.ledger.map Prod.snd).Nodup)
    (hchannel : session.channel = outcomes ++ rest) : Queued (session.takeOut outcomes) := by
  induction outcomes generalizing session with
  | nil => exact h
  | cons outcome later ih =>
      have hfirst := ledger_receive (tasks_nodup hnodup) hchannel
      rw [Session.takeOut, hchannel, List.cons_append, List.tail_cons]
      exact ih (h.receive (tasks_nodup hnodup) hchannel) ((hfirst.map Prod.snd).nodup_iff.2 hnodup)
        (receive_channel session outcome (later ++ rest))

/-- A task that neither waits for a place nor has one ends or goes on to its next stage. -/
theorem counts_of_idle {task : Task} (hnodup : (session.tasks.map Task.id).Nodup)
    (hmem : task ∈ session.tasks) (hblocked : task.isBlocked = false)
    (hgranted : task.isGranted = false) :
    (session.remove task.id).waiting = session.waiting ∧
      (session.remove task.id).places = session.places := by
  have hwaiting := countP_remove Task.isBlocked hnodup hmem
  have hplaces := countP_remove Task.isGranted hnodup hmem
  simp only [hblocked, hgranted, Bool.false_eq_true, if_false, Nat.add_zero] at hwaiting hplaces
  exact ⟨hwaiting.symm, congrArg (session.channel.length + ·) hplaces.symm⟩

theorem places_move_blocked (task : Task) (answer : Answer) :
    (session.move task (.blocked answer)).places = (session.remove task.id).places := by
  simp [places, move, Session.spawn, remove, List.countP_append, Task.isGranted]

theorem places_enqueue (outcome : Outcome) :
    (session.enqueue outcome).places = session.places + 1 := by
  rw [places, enqueue, List.length_append]
  exact Nat.add_right_comm _ _ _

/-- After an unmount nothing is on its way through the channel. -/
theorem counts_closed (session : Session α) :
    session.closed.waiting = 0 ∧ session.closed.places = 0 := by
  have hnone : ∀ task ∈ session.closed.tasks, task.isBlocked = false ∧ task.isGranted = false := by
    intro task hmem
    have hsurvives := (List.mem_filter.1 hmem).2
    unfold Task.survivesUnmount at hsurvives
    unfold Task.isBlocked Task.isGranted
    cases hstage : task.stage <;> simp_all
  constructor
  · exact List.countP_eq_zero.2 fun task hmem => by simp [(hnone task hmem).1]
  · refine (Nat.zero_add _).trans (List.countP_eq_zero.2 fun task hmem => ?_)
    simp [(hnone task hmem).2]

theorem effect {action : Step α} (h : Queued session) (haccounted : Accounted session)
    (heffect : Effect session action session') : Queued session' := by
  have htasks := tasks_nodup haccounted.nodup
  have hbound := h.bound
  have hfull := h.full
  have hclosed := h.closed
  cases heffect with
  | aside hstalls hsame hselector => exact h.same hsame hselector.mounted
  | typed hmounted hsame hselector =>
      exact (h.spawn rfl).same hsame (by rw [hselector]; rfl)
  | asked hstarts hsame hselector =>
      exact (h.spawn rfl).same hsame (by rw [hselector]; rfl)
  | took hrest haction hsame hselector =>
      obtain ⟨rest, hrest⟩ := hrest
      refine (h.takeOut haccounted.nodup hrest).same hsame ?_
      rw [hselector, Selector.foldl_take_mounted, takeOut_selector]
  | unmounted hsame hselector =>
      obtain ⟨hwaiting, hplaces⟩ := counts_closed session
      have hwaiting' : session'.waiting = 0 := by rw [← hwaiting, waiting, waiting, hsame.tasks]
      have hplaces' : session'.places = 0 := by
        rw [← hplaces, places, places, hsame.channel, hsame.tasks]
      exact ⟨by omega, by omega, fun _ => ⟨hwaiting', hplaces'⟩⟩
  | @called other task due _ htask hstage hdue hlatest hsame hselector =>
      obtain ⟨hmem, rfl⟩ := mem_of_task? htask
      have hwaiting := countP_move Task.isBlocked .awaiting htasks hmem
      have hplaces := countP_move Task.isGranted .awaiting htasks hmem
      simp only [Task.isBlocked, Task.isGranted, hstage, Bool.false_eq_true, if_false,
        Nat.add_zero] at hwaiting hplaces
      have hcalled : Queued (session.callFor task) :=
        h.of_counts (congrArg (session.channel.length + ·) hplaces) hwaiting rfl
      exact hcalled.same hsame (by rw [hselector]; rfl)
  | superseded htask hstage hdue hkind hlatest =>
      obtain ⟨hmem, rfl⟩ := mem_of_task? htask
      obtain ⟨hwaiting, hplaces⟩ := counts_of_idle htasks hmem (by rw [Task.isBlocked, hstage])
        (by rw [Task.isGranted, hstage])
      exact h.of_counts hplaces hwaiting rfl
  | sent htask hstage hmounted hfree =>
      obtain ⟨hmem, rfl⟩ := mem_of_task? htask
      obtain ⟨hwaiting, hplaces⟩ := counts_of_idle htasks hmem (by rw [Task.isBlocked, hstage])
        (by rw [Task.isGranted, hstage])
      rw [freePlaces_eq] at hfree
      refine ⟨?_, ?_, fun hopen => absurd (hmounted.symm.trans hopen) (by decide)⟩
      · rw [places_enqueue]
        omega
      · intro hwaits
        have : 0 < session.waiting := hwaiting ▸ hwaits
        omega
  | blocked htask hstage hmounted hfree =>
      obtain ⟨hmem, rfl⟩ := mem_of_task? htask
      obtain ⟨-, hplaces⟩ := counts_of_idle htasks hmem (by rw [Task.isBlocked, hstage])
        (by rw [Task.isGranted, hstage])
      rw [freePlaces_eq] at hfree
      refine ⟨?_, fun _ => ?_, fun hopen => absurd (hmounted.symm.trans hopen) (by decide)⟩
      · rw [places_move_blocked, hplaces]
        exact hbound
      · rw [places_move_blocked, hplaces]
        omega
  | lost htask hstage hmounted =>
      obtain ⟨hmem, rfl⟩ := mem_of_task? htask
      obtain ⟨hwaiting, hplaces⟩ := counts_of_idle htasks hmem (by rw [Task.isBlocked, hstage])
        (by rw [Task.isGranted, hstage])
      exact h.of_counts hplaces hwaiting rfl
  | filled htask hstage =>
      obtain ⟨hmem, rfl⟩ := mem_of_task? htask
      have hwaiting := countP_remove Task.isBlocked htasks hmem
      have hgranted := countP_remove Task.isGranted htasks hmem
      simp only [Task.isBlocked, Task.isGranted, hstage, if_true, Bool.false_eq_true, if_false,
        Nat.add_zero] at hwaiting hgranted
      refine h.of_counts ?_ hwaiting.symm rfl
      rw [places_enqueue]
      exact congrArg (session.channel.length + ·) hgranted.symm
  | waited ms => exact h.of_counts rfl rfl rfl

theorem run (profile : Profile α) (steps : List (Step α)) :
    Queued ((Session.start profile).run steps) :=
  (Accounted.start profile).keeps (start profile) effect steps

end Queued

/-- A task that has a place has it in the channel of a mounted selector. -/
theorem Queued.mounted_of_granted {session : Session α} (h : Queued session) {task : Task}
    (hmem : task ∈ session.tasks) (hgranted : task.isGranted = true) :
    session.selector.mounted = true := by
  have hcount : 0 < session.tasks.countP Task.isGranted :=
    List.countP_pos_iff.2 ⟨task, hmem, hgranted⟩
  by_contra hopen
  obtain ⟨-, hplaces⟩ := h.closed (by simpa using hopen)
  unfold places at hplaces
  omega

/-- The requests whose outcomes wait for a place, in the order in which they came to wait. -/
def waiters (session : Session α) : List Nat :=
  (session.tasks.filter Task.isBlocked).map Task.id

theorem waiters_spawn (session : Session α) (task : Task) :
    (session.spawn task).waiters =
      session.waiters ++ if task.isBlocked = true then [task.id] else [] := by
  rw [waiters, spawn, List.filter_append, List.map_append, List.filter_singleton]
  cases task.isBlocked <;> rfl

theorem waiters_remove {session : Session α} {task : Task}
    (hnodup : (session.tasks.map Task.id).Nodup) (hmem : task ∈ session.tasks)
    (hidle : task.isBlocked = false) : (session.remove task.id).waiters = session.waiters := by
  have hothers : ∀ other ∈ session.tasks,
      (other.isBlocked && decide (other.id ≠ task.id)) = other.isBlocked := by
    intro other hother
    by_cases hid : other.id = task.id
    · have hfound := task?_of_mem hnodup hother
      rw [hid, task?_of_mem hnodup hmem] at hfound
      cases hfound
      rw [hidle]
      rfl
    · simp [hid]
  rw [waiters, remove, List.filter_filter, List.filter_congr hothers]
  rfl

/-- A place that becomes free goes to the request that has waited longest. -/
theorem waiters_grant (session : Session α) (hnodup : (session.tasks.map Task.id).Nodup) :
    session.grant.waiters = session.waiters.tail := by
  rcases grant_cases session with ⟨hnone, hgrant⟩ | ⟨task, answer, hfound, hstage, hgrant⟩ <;>
    rw [hgrant]
  · have hempty : session.waiters = [] := by
      rw [waiters, List.filter_eq_nil_iff.2 fun task hmem => by simp [hnone task hmem]]
      rfl
    rw [hempty]
    rfl
  · obtain ⟨hblocked, before, after, htasks, hbefore⟩ := List.find?_eq_some_iff_append.1 hfound
    have hfirst : before.filter Task.isBlocked = [] :=
      List.filter_eq_nil_iff.2 fun other hmem => by simpa using hbefore other hmem
    have hothers : after.filter (·.id ≠ task.id) = after := by
      rw [htasks, List.map_append, List.map_cons] at hnodup
      obtain ⟨hnotin, -⟩ := List.nodup_cons.1 (List.nodup_append.1 hnodup).2.1
      refine List.filter_eq_self.2 fun other hmem => decide_eq_true fun hid => hnotin ?_
      exact hid ▸ List.mem_map_of_mem hmem
    have hwaiters : session.waiters = task.id :: (after.filter Task.isBlocked).map Task.id := by
      rw [waiters, htasks, List.filter_append, hfirst, List.filter_cons_of_pos hblocked]
      rfl
    have hremoved : (session.remove task.id).waiters =
        (after.filter Task.isBlocked).map Task.id := by
      rw [waiters, remove, htasks, List.filter_append, List.filter_append, List.filter_comm, hfirst,
        List.filter_cons_of_neg (by simp), hothers]
      rfl
    rw [move, waiters_spawn, hremoved, hwaiters]
    exact List.append_nil _

theorem waiters_takeOut {outcomes rest : List Outcome} {session : Session α}
    (hnodup : (session.ledger.map Prod.snd).Nodup)
    (hchannel : session.channel = outcomes ++ rest) :
    (session.takeOut outcomes).waiters = session.waiters.drop outcomes.length := by
  induction outcomes generalizing session with
  | nil => rfl
  | cons outcome later ih =>
      have htasks := tasks_nodup hnodup
      have hgrant : (session.receive outcome (later ++ rest)).waiters = session.waiters.tail :=
        waiters_grant (({ session with channel := later ++ rest } : Session α).emit
          (.received outcome.kind outcome.id)) htasks
      have hnodup' : ((session.receive outcome (later ++ rest)).ledger.map Prod.snd).Nodup :=
        ((ledger_receive htasks hchannel).map Prod.snd).nodup_iff.2 hnodup
      have hlater := ih hnodup' (receive_channel session outcome (later ++ rest))
      rw [takeOut, hchannel, List.cons_append, List.tail_cons, hlater, hgrant, List.length_cons,
        List.drop_tail]

theorem SameRequests.waiters {session session' : Session α} (h : SameRequests session session') :
    session'.waiters = session.waiters := by
  rw [Session.waiters, Session.waiters, h.tasks]

/-- Those who wait for a place are served in order, one for each outcome that is taken out, and who
comes to wait comes last. -/
theorem Effect.waiters {session session' : Session α} {action : Step α}
    (h : Effect session action session') (haccounted : Accounted session)
    (hmounted : session'.selector.mounted = true) :
    ∃ joined, session'.waiters =
      session.waiters.drop (session.taken action).length ++ joined := by
  have htasks := tasks_nodup haccounted.nodup
  have hremoved : ∀ {id : Nat} {task : Task}, session.task? id = some task →
      task.isBlocked = false → (session.remove id).waiters = session.waiters := by
    intro id task htask hidle
    obtain ⟨hmem, rfl⟩ := mem_of_task? htask
    exact waiters_remove htasks hmem hidle
  have hidle : session.taken action = [] → session'.waiters = session.waiters →
      ∃ joined, session'.waiters =
        session.waiters.drop (session.taken action).length ++ joined := by
    intro htaken hwaiters
    exact ⟨[], by rw [htaken, hwaiters, List.append_nil]; rfl⟩
  cases h with
  | aside hstalls hsame hselector hlabels => exact hidle hstalls.taken hsame.waiters
  | typed _ hsame hselector =>
      exact hidle rfl (hsame.waiters.trans ((waiters_spawn _ _).trans (List.append_nil _)))
  | asked hstarts hsame hselector =>
      exact hidle rfl (hsame.waiters.trans ((waiters_spawn _ _).trans (List.append_nil _)))
  | took hrest haction hsame hselector =>
      obtain ⟨rest, hrest⟩ := hrest
      refine ⟨[], ?_⟩
      rw [hsame.waiters, waiters_takeOut haccounted.nodup hrest, List.append_nil]
  | unmounted hsame hselector =>
      rw [hselector] at hmounted
      cases hmounted
  | @called id task due _ htask hstage hdue hlatest hsame hselector =>
      have hcall : (session.callFor task).waiters = (session.remove task.id).waiters :=
        (waiters_spawn _ _).trans (List.append_nil _)
      rw [(mem_of_task? htask).2] at hcall
      exact hidle rfl (hsame.waiters.trans
        (hcall.trans (hremoved htask (by rw [Task.isBlocked, hstage]))))
  | superseded htask hstage hdue hkind hlatest =>
      exact hidle rfl (hremoved htask (by rw [Task.isBlocked, hstage]))
  | sent htask hstage hopen hfree =>
      exact hidle rfl (hremoved htask (by rw [Task.isBlocked, hstage]))
  | @blocked id task _ htask hstage hopen hfree =>
      refine ⟨[task.id], ?_⟩
      have hkept := hremoved htask (by rw [Task.isBlocked, hstage])
      rw [move, waiters_spawn, (mem_of_task? htask).2, hkept]
      rfl
  | lost htask hstage hclosed =>
      exact hidle rfl (hremoved htask (by rw [Task.isBlocked, hstage]))
  | filled htask hstage =>
      exact hidle rfl (hremoved htask (by rw [Task.isBlocked, hstage]))
  | waited ms => exact hidle rfl rfl

end Session

end IssueDesk
