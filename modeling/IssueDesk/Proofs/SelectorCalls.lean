import IssueDesk.Proofs.SelectorDelivery

/-! The calls that background searches make. Each is made for the search that is the latest at that
moment, with the text of its keystroke, and under a greater number than all before (`Paced`). Time
passes only by the steps that wait. -/

namespace IssueDesk

/-- How long a step takes. -/
def Step.duration : Step α → Nat
  | .wait ms => ms
  | _ => 0

def elapsed : List (Step α) → Nat
  | [] => 0
  | action :: later => action.duration + elapsed later

namespace Session

theorem Effect.now {session session' : Session α} {action : Step α}
    (h : Effect session action session') : session'.now = session.now + action.duration := by
  cases h with
  | aside hstalls hsame hselector hlabels =>
      rw [hsame.now]
      cases action <;> first | rfl | exact absurd hstalls id
  | took hrest haction hsame hselector =>
      rw [hsame.now, (takeOut_keeps _ _).2.1]
      rcases haction with rfl | rfl <;> rfl
  | typed hmounted hsame hselector => exact hsame.now
  | asked hstarts hsame hselector => exact hsame.now
  | unmounted hsame hselector => exact hsame.now
  | called htask hstage hdue hlatest hsame hselector => exact hsame.now
  | _ => rfl

theorem Effect.lastRequest {session session' : Session α} {action : Step α}
    (h : Effect session action session') :
    session.selector.lastRequest ≤ session'.selector.lastRequest := by
  cases h with
  | aside hstalls hsame hselector hlabels => exact Nat.le_of_eq hselector.lastRequest.symm
  | took hrest haction hsame hselector =>
      apply Nat.le_of_eq
      rw [hselector, Selector.foldl_take_lastRequest]
  | called htask hstage hdue hlatest hsame hselector => exact Nat.le_of_eq (by rw [hselector])
  | typed hmounted hsame hselector => simp [hselector]
  | asked hstarts hsame hselector => simp [hselector]
  | unmounted hsame hselector => simp [hselector]
  | _ => exact Nat.le_refl _

theorem run_lastRequest (session : Session α) (steps : List (Step α)) :
    session.selector.lastRequest ≤ (session.run steps).selector.lastRequest := by
  induction steps generalizing session with
  | nil => exact Nat.le_refl _
  | cons action later ih => exact Nat.le_trans (step_effect session action).lastRequest (ih _)

theorem calls_callFor (session : Session α) (task : Task) (kind : RequestKind) :
    (session.callFor task).calls kind =
      session.calls kind ++ if task.kind = kind then [(task.id, task.query)] else [] := by
  have hjournal : (session.callFor task).calls kind = session.calls kind ++
      (Event.call? kind (.called (.request task.kind task.id) task.query)).toList := by
    simp only [calls, callFor, move, remove, spawn, emit, List.filterMap_append,
      List.filterMap_cons, List.filterMap_nil]
    split <;> simp_all
  rw [hjournal, Event.call?]
  split <;> rfl

/-- A search makes its call: it has come to its time, and it is the latest. -/
structure SearchCall (session : Session α) (action : Step α) (session' : Session α)
    (task : Task) : Prop where
  woken : action = .wake task.id
  found : session.task? task.id = some task
  kind : task.kind = .search
  due : ∃ due, task.stage = .pending due ∧ due ≤ session.now
  latest : session.selector.latestSearch = task.id
  selector : session'.selector = session.selector
  moved : session'.task? task.id = some { task with stage := .awaiting }
  calls : session'.calls .search = session.calls .search ++ [(task.id, task.query)]

theorem Effect.search_call {session session' : Session α} {action : Step α}
    (h : Effect session action session') : session'.calls .search = session.calls .search ∨
      ∃ task, SearchCall session action session' task := by
  cases h with
  | aside hstalls hsame hselector hlabels => exact Or.inl (hsame.calls .search)
  | took hrest haction hsame hselector =>
      exact Or.inl ((hsame.calls .search).trans ((takeOut_keeps _ _).2.2 .search))
  | typed hmounted hsame hselector => exact Or.inl (hsame.calls .search)
  | asked hstarts hsame hselector => exact Or.inl (hsame.calls .search)
  | unmounted hsame hselector => exact Or.inl (hsame.calls .search)
  | @called id task due _ htask hstage hdue hlatest hsame hselector =>
      obtain ⟨-, rfl⟩ := mem_of_task? htask
      have hcalls := (hsame.calls .search).trans (calls_callFor session task .search)
      cases hkind : task.kind with
      | lookup => exact Or.inl (by simpa [hkind] using hcalls)
      | search =>
          rw [if_pos hkind] at hcalls
          have hmove := task?_move
            (session.emit (.called (.request task.kind task.id) task.query)) task .awaiting task.id
          rw [if_pos rfl] at hmove
          exact Or.inr ⟨task, rfl, htask, hkind, ⟨due, hstage, hdue⟩, hlatest hkind, hselector,
            (hsame.task? task.id).trans hmove, hcalls⟩
  | _ => exact Or.inl rfl

/-- A step by which a search makes no call of its own leaves its calls as they are. -/
theorem Effect.uncalled {session session' : Session α} {action : Step α} {id : Nat}
    (h : Effect session action session') (hold : ∀ call ∈ session.calls .search, call.1 ≠ id)
    (hother : ∀ task, SearchCall session action session' task → task.id ≠ id) :
    ∀ call ∈ session'.calls .search, call.1 ≠ id := by
  rcases h.search_call with hsame | ⟨task, hcall⟩
  · rw [hsame]
    exact hold
  · rw [hcall.calls]
    intro call hmem
    rcases List.mem_append.1 hmem with hmem | hmem
    · exact hold call hmem
    · obtain rfl := List.mem_singleton.1 hmem
      exact hother task hcall

/-- A task comes from one stage to the next. -/
inductive Advance (session' : Session α) (id : Nat) (old task : Task) : Prop
  | called {due : Nat} (hold : old.stage = .pending due) (hstage : task.stage = .awaiting)
      (hcall : task.kind = .search → (id, task.query) ∈ session'.calls .search)
  | answered {answer : Answer} (hold : old.stage = .awaiting)
      (hstage : task.stage = .blocked answer)
  | granted {answer : Answer} (hold : old.stage = .blocked answer)
      (hstage : task.stage = .granted answer)

/-- A task has stood as it is before, or it is new, or it has come to its next stage. -/
theorem Effect.task_from {session session' : Session α} {action : Step α}
    (h : Effect session action session') (haccounted : Accounted session) {id : Nat}
    {task : Task} (htask : session'.task? id = some task) :
    session.task? id = some task ∨
      (id = session.selector.lastRequest + 1 ∧ ∃ due, task.stage = .pending due) ∨
      ∃ old, session.task? id = some old ∧ task = { old with stage := task.stage } ∧
        Advance session' id old task := by
  have hspawned : ∀ {started : Task} {due : Nat}, SameRequests (session.spawn started) session' →
      started.id = session.selector.lastRequest + 1 → started.stage = .pending due →
      session.task? id = some task ∨
        (id = session.selector.lastRequest + 1 ∧ ∃ due, task.stage = .pending due) := by
    intro started due hsame hid hpending
    rw [hsame.task?, task?_spawn, Option.or_eq_some_iff] at htask
    rcases htask with hold | ⟨-, hnew⟩
    · exact Or.inl hold
    · split at hnew
      next hstarted =>
        cases hnew
        exact Or.inr ⟨hstarted.symm.trans hid, due, hpending⟩
      next => cases hnew
  have hremoved : ∀ other, (session.remove other).task? id = some task →
      session.task? id = some task := by
    intro other hother
    rw [task?_remove] at hother
    split at hother
    next => cases hother
    next => exact hother
  cases h with
  | aside hstalls hsame hselector hlabels => exact Or.inl (hsame.task? id ▸ htask)
  | typed hmounted hsame hselector => exact (hspawned hsame rfl rfl).imp_right Or.inl
  | asked hstarts hsame hselector => exact (hspawned hsame rfl rfl).imp_right Or.inl
  | took hrest haction hsame hselector =>
      obtain ⟨rest, hrest⟩ := hrest
      rw [hsame.task?] at htask
      rcases task?_takeOut haccounted.nodup hrest id with
        hkept | ⟨old, answer, hold, hblocked, hgranted⟩
      · exact Or.inl (hkept ▸ htask)
      · rw [hgranted] at htask
        cases htask
        exact Or.inr (Or.inr ⟨old, hold, rfl, .granted hblocked rfl⟩)
  | unmounted hsame hselector =>
      rw [hsame.task?, task?_closed (tasks_nodup haccounted.nodup)] at htask
      exact Or.inl (Option.filter_eq_some_iff.1 htask).1
  | @called other old due _ hold hpending hdue hlatest hsame hselector =>
      have hmove : (session.callFor old).task? id =
          if old.id = id then some { old with stage := .awaiting } else session.task? id :=
        task?_move _ old .awaiting id
      have hcall := (hsame.calls .search).trans (calls_callFor session old .search)
      rw [hsame.task?, hmove] at htask
      split at htask
      next hid =>
        cases htask
        rw [← (mem_of_task? hold).2, hid] at hold
        refine Or.inr (Or.inr ⟨old, hold, rfl, .called hpending rfl fun hkind => ?_⟩)
        rw [hcall, if_pos hkind, hid]
        exact List.mem_append_right _ (List.mem_singleton_self _)
      next => exact Or.inl htask
  | superseded => exact Or.inl (hremoved _ htask)
  | sent => exact Or.inl (hremoved _ htask)
  | @blocked other old _ hold hawaiting hmounted hplaces =>
      rw [task?_move] at htask
      split at htask
      next hid =>
        cases htask
        rw [← (mem_of_task? hold).2, hid] at hold
        exact Or.inr (Or.inr ⟨old, hold, rfl, .answered hawaiting rfl⟩)
      next => exact Or.inl htask
  | lost => exact Or.inl (hremoved _ htask)
  | filled => exact Or.inl (hremoved _ htask)
  | waited ms => exact Or.inl htask

/-- A task that waits for its time has done so before, or it is new. -/
theorem Effect.pending_from {session session' : Session α} {action : Step α}
    (h : Effect session action session') (haccounted : Accounted session) {id due : Nat}
    {task : Task} (htask : session'.task? id = some task) (hstage : task.stage = .pending due) :
    session.task? id = some task ∨ id = session.selector.lastRequest + 1 := by
  rcases h.task_from haccounted htask with hold | ⟨hnew, -⟩ | ⟨old, -, -, hadvance⟩
  · exact Or.inl hold
  · exact Or.inr hnew
  · cases hadvance with
    | called _ hnext => rw [hstage] at hnext; cases hnext
    | answered _ hnext => rw [hstage] at hnext; cases hnext
    | granted _ hnext => rw [hstage] at hnext; cases hnext

/-- A task goes on waiting for its time until it is woken after that. -/
theorem Effect.pending_kept {session session' : Session α} {action : Step α}
    (h : Effect session action session') (haccounted : Accounted session) {id due : Nat}
    {task : Task} (htask : session.task? id = some task) (hstage : task.stage = .pending due) :
    session'.task? id = some task ∨ action = .wake id ∧ due ≤ session.now := by
  have hspawned : ∀ {started : Task}, SameRequests (session.spawn started) session' →
      session'.task? id = some task := by
    intro started hsame
    rw [hsame.task?, task?_spawn, htask]
    rfl
  have hwoken : ∀ {other due' : Nat} {woken : Task}, session.task? other = some woken →
      woken.stage = .pending due' → due' ≤ session.now → other = id → due ≤ session.now := by
    rintro other due' woken hfound hpending hdue rfl
    rw [htask] at hfound
    cases hfound
    rw [hstage] at hpending
    cases hpending
    exact hdue
  have hother : ∀ {other : Nat} {found : Task}, session.task? other = some found →
      (∀ due', found.stage ≠ .pending due') → other ≠ id := by
    rintro other found hfound hidle rfl
    rw [htask] at hfound
    cases hfound
    exact hidle due hstage
  cases h with
  | aside hstalls hsame hselector hlabels => exact Or.inl ((hsame.task? id).trans htask)
  | typed hmounted hsame hselector => exact Or.inl (hspawned hsame)
  | asked hstarts hsame hselector => exact Or.inl (hspawned hsame)
  | took hrest haction hsame hselector =>
      obtain ⟨rest, hrest⟩ := hrest
      rw [hsame.task?]
      rcases task?_takeOut haccounted.nodup hrest id with hkept | ⟨_, _, hfound, hblocked, -⟩
      · exact Or.inl (hkept.trans htask)
      · rw [htask] at hfound
        cases hfound
        rw [hstage] at hblocked
        cases hblocked
  | unmounted hsame hselector =>
      rw [hsame.task?, task?_closed (tasks_nodup haccounted.nodup), htask]
      have hsurvives : Task.survivesUnmount task = true := by
        rw [Task.survivesUnmount, hstage]
      exact Or.inl (by simp [Option.filter, hsurvives])
  | @called other moved _ _ hmoved hpending hdue hlatest hsame hselector =>
      by_cases hid : other = id
      · exact Or.inr ⟨by rw [hid], hwoken hmoved hpending hdue hid⟩
      · have hmove : (session.callFor moved).task? id =
            if moved.id = id then some { moved with stage := .awaiting } else session.task? id :=
          task?_move _ moved .awaiting id
        rw [(mem_of_task? hmoved).2, if_neg hid] at hmove
        exact Or.inl ((hsame.task? id).trans (hmove.trans htask))
  | @superseded other _ _ hfound hpending hdue hkind hlatest =>
      by_cases hid : other = id
      · exact Or.inr ⟨by rw [hid], hwoken hfound hpending hdue hid⟩
      · exact Or.inl (by rw [task?_remove, if_neg hid, htask])
  | sent hfound hawaiting hmounted hplaces =>
      have hid := hother hfound (fun due' => by simp [hawaiting])
      exact Or.inl ((task?_remove _ _ id).trans ((if_neg hid).trans htask))
  | blocked hfound hawaiting hmounted hplaces =>
      have hid := hother hfound (fun due' => by simp [hawaiting])
      rw [task?_move, (mem_of_task? hfound).2, if_neg hid]
      exact Or.inl htask
  | lost hfound hawaiting hmounted =>
      have hid := hother hfound (fun due' => by simp [hawaiting])
      exact Or.inl (by rw [task?_remove, if_neg hid, htask])
  | filled hfound hgranted =>
      have hid := hother hfound (fun due' => by simp [hgranted])
      exact Or.inl ((task?_remove _ _ id).trans ((if_neg hid).trans htask))
  | waited ms => exact Or.inl htask

theorem Effect.latestSearch {session session' : Session α} {action : Step α}
    (h : Effect session action session') (haccounted : Accounted session) :
    session.selector.latestSearch ≤ session'.selector.latestSearch := by
  have hbound : session.selector.latestSearch ≤ session.selector.lastRequest :=
    haccounted.latest .search
  cases h with
  | aside hstalls hsame hselector hlabels =>
      exact Nat.le_of_eq (hselector.latest .search).symm
  | took hrest haction hsame hselector =>
      apply Nat.le_of_eq
      rw [hselector]
      exact (Selector.foldl_take_latest _ _ .search).symm
  | typed hmounted hsame hselector =>
      rw [hselector]
      exact Nat.le_succ_of_le hbound
  | unmounted hsame hselector =>
      rw [hselector]
      exact Nat.le_succ_of_le hbound
  | asked hstarts hsame hselector => exact Nat.le_of_eq (by rw [hselector])
  | called htask hstage hdue hlatest hsame hselector => exact Nat.le_of_eq (by rw [hselector])
  | _ => exact Nat.le_refl _

/-- The searches called for so far come in the order of their numbers, none after the latest, and
none of them waits for its time any more. -/
structure Paced (session : Session α) : Prop where
  increasing : ((session.calls .search).map Prod.fst).Pairwise (· < ·)
  bound : ∀ call ∈ session.calls .search, call.1 ≤ session.selector.latestSearch
  uncalled : ∀ id task due, session.task? id = some task → task.stage = .pending due →
    ∀ call ∈ session.calls .search, call.1 ≠ id

namespace Paced

variable {session session' : Session α}

theorem start (profile : Profile α) : Paced (start profile) :=
  ⟨List.Pairwise.nil, nofun, nofun⟩

theorem fresh (h : Paced session) (haccounted : Accounted session) :
    ∀ call ∈ session.calls .search, call.1 ≤ session.selector.lastRequest := by
  intro call hcall
  have hlatest : session.selector.latestSearch ≤ _ := haccounted.latest .search
  have := h.bound call hcall
  omega

theorem effect {action : Step α} (h : Paced session) (haccounted : Accounted session)
    (heffect : Effect session action session') : Paced session' := by
  have hmono := heffect.latestSearch haccounted
  have hfresh := h.fresh haccounted
  have hpending : ∀ id task due, session'.task? id = some task → task.stage = .pending due →
      ∀ call ∈ session.calls .search, call.1 ≠ id := by
    intro id task due htask hstage call hcall
    rcases heffect.pending_from haccounted htask hstage with hold | rfl
    · exact h.uncalled id task due hold hstage call hcall
    · have := hfresh call hcall
      omega
  have huncalled : ∀ id task due, session'.task? id = some task → task.stage = .pending due →
      ∀ call ∈ session'.calls .search, call.1 ≠ id := by
    intro id task due htask hstage
    refine heffect.uncalled (hpending id task due htask hstage) ?_
    rintro other hcall rfl
    rw [hcall.moved] at htask
    cases htask
    cases hstage
  refine ⟨?_, ?_, huncalled⟩ <;> rcases heffect.search_call with hsame | ⟨task, hcall⟩
  · rw [hsame]
    exact h.increasing
  · obtain ⟨due, hstage, -⟩ := hcall.due
    rw [hcall.calls, List.map_append, List.pairwise_append]
    refine ⟨h.increasing, List.pairwise_singleton _ _, fun id hid last hmem => ?_⟩
    obtain ⟨call, hmade, rfl⟩ := List.mem_map.1 hid
    obtain rfl := List.mem_singleton.1 hmem
    have hle := h.bound call hmade
    have hne := h.uncalled task.id task due hcall.found hstage call hmade
    rw [hcall.latest] at hle
    exact Nat.lt_of_le_of_ne hle hne
  · rw [hsame]
    exact fun call hmade => Nat.le_trans (h.bound call hmade) hmono
  · rw [hcall.calls, hcall.selector]
    intro call hmade
    rcases List.mem_append.1 hmade with hmade | hmade
    · exact h.bound call hmade
    · obtain rfl := List.mem_singleton.1 hmade
      exact Nat.le_of_eq hcall.latest.symm

theorem run (profile : Profile α) (steps : List (Step α)) :
    Paced ((Session.start profile).run steps) :=
  (Accounted.start profile).keeps (start profile) effect steps

end Paced

/-- No call is taken back. -/
theorem Effect.calls_kept {session session' : Session α} {action : Step α}
    (h : Effect session action session') : session.calls .search <+: session'.calls .search := by
  rcases h.search_call with hsame | ⟨task, hcall⟩
  · exact ⟨[], by rw [hsame, List.append_nil]⟩
  · exact ⟨[(task.id, task.query)], hcall.calls.symm⟩

theorem calls_kept (session : Session α) (steps : List (Step α)) :
    session.calls .search <+: (session.run steps).calls .search := by
  induction steps using List.reverseRecOn with
  | nil => exact List.prefix_refl _
  | append_singleton steps action ih =>
      rw [run_concat]
      exact ih.trans (step_effect (session.run steps) action).calls_kept

/-- A search has been asked by a keystroke. -/
theorem exists_input_of_asked {session : Session α} {id : Nat} {query : String}
    {steps : List (Step α)} (h : session.asked id steps = some (.search, query)) :
    ∃ before after, steps = before ++ .input query :: after ∧
      (session.run before).selector.mounted = true ∧
      (session.run before).selector.lastRequest + 1 = id := by
  induction steps generalizing session with
  | nil => cases h
  | cons action later ih =>
      rw [asked, Option.or_eq_some_iff] at h
      rcases h with hstarts | ⟨-, hlater⟩
      · cases action with
        | input text =>
            simp only [starts, Bool.and_eq_true, beq_iff_eq] at hstarts
            split at hstarts
            next hnew =>
              cases hstarts
              exact ⟨[], later, rfl, hnew.1, hnew.2⟩
            next => cases hstarts
        | value selection =>
            simp only [starts] at hstarts
            split at hstarts <;> cases hstarts
        | _ => cases hstarts
      · obtain ⟨before, after, rfl, hmounted, hid⟩ := ih hlater
        exact ⟨action :: before, after, rfl, hmounted, hid⟩

/-- A call has been asked for, with its text. -/
theorem asked_of_call (profile : Profile α) {steps : List (Step α)} {call : Nat × String}
    (h : call ∈ ((start profile).run steps).calls .search) :
    (start profile).asked call.1 steps = some (.search, call.2) := by
  induction steps using List.reverseRecOn with
  | nil => cases h
  | append_singleton steps action ih =>
      rw [run_concat] at h
      rcases (step_effect ((start profile).run steps) action).search_call with
        hsame | ⟨task, hcall⟩
      · rw [hsame] at h
        rw [asked_concat, ih h]
        rfl
      · rw [hcall.calls] at h
        rcases List.mem_append.1 h with h | h
        · rw [asked_concat, ih h]
          rfl
        · obtain rfl := List.mem_singleton.1 h
          obtain ⟨hasked, -⟩ := (Traced.run profile task.id steps).task task hcall.found
          rw [asked_concat, hasked, hcall.kind]
          rfl

/-- A search that is past its quiet period has been called for. -/
def Backed (session : Session α) : Prop :=
  ∀ id task, session.task? id = some task → task.kind = .search →
    (∃ due, task.stage = .pending due) ∨ (id, task.query) ∈ session.calls .search

theorem Backed.effect {session session' : Session α} {action : Step α} (h : Backed session)
    (haccounted : Accounted session) (heffect : Effect session action session') :
    Backed session' := by
  intro id task htask hkind
  have hcalls := heffect.calls_kept.subset
  rcases heffect.task_from haccounted htask with hold | ⟨-, hpending⟩ | ⟨old, hold, htask, hadvance⟩
  · exact (h id task hold hkind).imp_right (hcalls ·)
  · exact Or.inl hpending
  · rw [htask] at hkind
    have hbacked := h id old hold hkind
    have hquery : old.query = task.query := by rw [htask]
    have hpast : (∀ due, old.stage ≠ .pending due) → (id, task.query) ∈ session'.calls .search := by
      intro hstage
      rcases hbacked with ⟨due, hpending⟩ | hcalled
      · exact absurd hpending (hstage due)
      · exact hquery ▸ hcalls hcalled
    cases hadvance with
    | called _ _ hcall => exact Or.inr (hcall (htask ▸ hkind))
    | answered hstage => exact Or.inr (hpast fun due => by simp [hstage])
    | granted hstage => exact Or.inr (hpast fun due => by simp [hstage])

theorem Backed.run (profile : Profile α) (steps : List (Step α)) :
    Backed ((start profile).run steps) :=
  (Accounted.start profile).keeps nofun Backed.effect steps

/-- What a search yields has been called for. -/
theorem called_of_yields (profile : Profile α) (id : Nat) {steps : List (Step α)}
    {outcome : Outcome} (h : outcome ∈ (start profile).yields id steps) :
    ∃ query, (start profile).asked id steps = some (outcome.kind, query) ∧
      (outcome.kind = .search → (id, query) ∈ ((start profile).run steps).calls .search) := by
  induction steps using List.reverseRecOn with
  | nil => cases h
  | append_singleton steps action ih =>
      have hkept := calls_kept ((start profile).run steps) [action]
      rw [← run_append] at hkept
      rw [yields, gathered_concat] at h
      rcases List.mem_append.1 h with h | h
      · obtain ⟨query, hasked, hcalled⟩ := ih h
        refine ⟨query, ?_, fun hkind => hkept.subset (hcalled hkind)⟩
        rw [asked_concat, hasked]
        rfl
      · obtain ⟨hputs, hid⟩ := List.mem_filter.1 h
        obtain rfl : outcome.id = id := by simpa using hid
        rcases (step_effect ((start profile).run steps) action).delivers
            (Accounted.run profile steps) (Queued.run profile steps) with
          ⟨rest, hchannel, hchannel', -, -⟩ |
            ⟨other, task, htask, hkind, hstage, htaken, hchannel, -, -⟩ | ⟨hchannel, -, -⟩
        · rw [puts, hchannel', hchannel] at hputs
          simp at hputs
        · rw [puts, hchannel, htaken] at hputs
          obtain rfl : outcome = other := by simpa using hputs
          obtain ⟨hasked, -⟩ := (Traced.run profile outcome.id steps).task task htask
          refine ⟨task.query, ?_, fun hsearch => ?_⟩
          · rw [asked_concat, hasked, hkind]
            rfl
          · rcases Backed.run profile steps outcome.id task htask (hkind.trans hsearch) with
              ⟨due, hpending⟩ | hcalled
            · exact absurd hpending (hstage due)
            · exact hkept.subset hcalled
        · rw [puts, hchannel, List.drop_nil] at hputs
          cases hputs

end Session

end IssueDesk
