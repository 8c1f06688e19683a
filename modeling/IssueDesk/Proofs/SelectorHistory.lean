import IssueDesk.Proofs.SelectorLedger

/-! What has been asked and answered in a run. A session does not keep the texts of its requests nor
the responses to them once an outcome is written; both are read off the steps of the run (`asked`,
`responses`). Every outcome under way agrees with them: it is what the response to its request means
for the text of that request (`Traced`). -/

namespace IssueDesk

/-- The answer that a task holds is what the one response means for its text; without an answer
there has been no response. -/
def Task.Agrees (source : Source α) (responses : List (Except CallFailure (Envelope α)))
    (task : Task) : Prop :=
  match task.stage with
  | .pending _ | .awaiting => responses = []
  | .blocked answer | .granted answer =>
      ∃ response, responses = [response] ∧ answer = source.fetch task.query response

namespace Session

/-- The request that a step starts under an id, with its text. -/
def starts (session : Session α) (id : Nat) : Step α → Option (RequestKind × String)
  | .input query =>
      if session.selector.mounted && session.selector.lastRequest + 1 == id then
        some (.search, query)
      else none
  | .value selection =>
      if session.startsLookup selection && session.selector.lastRequest + 1 == id then
        some (.lookup, "")
      else none
  | _ => none

/-- The response that a step brings to a request. -/
def replies (session : Session α) (id : Nat) :
    Step α → List (Except CallFailure (Envelope α))
  | .answer other response => if other = id ∧ session.awaits id = true then [response] else []
  | _ => []

/-- What has been asked under an id in a run. -/
def asked (session : Session α) (id : Nat) : List (Step α) → Option (RequestKind × String)
  | [] => none
  | action :: later => (session.starts id action).or ((session.step action).asked id later)

/-- What is seen at the steps of a run, in order. -/
def gathered {β : Type} (session : Session α) (observe : Session α → Step α → List β) :
    List (Step α) → List β
  | [] => []
  | action :: later => observe session action ++ (session.step action).gathered observe later

/-- The responses to a request in a run. -/
def responses (session : Session α) (id : Nat) (steps : List (Step α)) :
    List (Except CallFailure (Envelope α)) :=
  session.gathered (·.replies id ·) steps

theorem asked_append (session : Session α) (id : Nat) (steps later : List (Step α)) :
    session.asked id (steps ++ later) =
      (session.asked id steps).or ((session.run steps).asked id later) := by
  induction steps generalizing session with
  | nil => rfl
  | cons action steps ih =>
      rw [List.cons_append, asked, asked, ih, Option.or_assoc]
      rfl

theorem asked_concat (session : Session α) (id : Nat) (steps : List (Step α)) (action : Step α) :
    session.asked id (steps ++ [action]) =
      (session.asked id steps).or ((session.run steps).starts id action) := by
  rw [asked_append, asked, asked, Option.or_none]

theorem gathered_append {β : Type} (session : Session α)
    (observe : Session α → Step α → List β) (steps later : List (Step α)) :
    session.gathered observe (steps ++ later) =
      session.gathered observe steps ++ (session.run steps).gathered observe later := by
  induction steps generalizing session with
  | nil => rfl
  | cons action steps ih =>
      rw [List.cons_append, gathered, gathered, ih, List.append_assoc]
      rfl

theorem gathered_concat {β : Type} (session : Session α)
    (observe : Session α → Step α → List β) (steps : List (Step α)) (action : Step α) :
    session.gathered observe (steps ++ [action]) =
      session.gathered observe steps ++ observe (session.run steps) action := by
  rw [gathered_append, gathered, gathered, List.append_nil]

theorem responses_append (session : Session α) (id : Nat) (steps later : List (Step α)) :
    session.responses id (steps ++ later) =
      session.responses id steps ++ (session.run steps).responses id later :=
  session.gathered_append _ steps later

theorem responses_concat (session : Session α) (id : Nat) (steps : List (Step α))
    (action : Step α) :
    session.responses id (steps ++ [action]) =
      session.responses id steps ++ (session.run steps).replies id action :=
  session.gathered_concat _ steps action

/-- A step that stalls neither asks nor answers. -/
theorem Stalls.silent {session : Session α} {action : Step α} (h : session.Stalls action)
    (id : Nat) : session.starts id action = none ∧ session.replies id action = [] := by
  cases action with
  | input query =>
      have hmounted : session.selector.mounted = false := h
      simp [starts, replies, hmounted]
  | value selection =>
      have hlookup : session.startsLookup selection = false := h
      simp [starts, replies, hlookup]
  | answer other response =>
      have hawaits : session.awaits other = false := h
      refine ⟨rfl, if_neg ?_⟩
      rintro ⟨rfl, htrue⟩
      rw [hawaits] at htrue
      cases htrue
  | _ => exact ⟨rfl, rfl⟩

/-! Where a task is found after its tasks have been changed. -/

theorem SameRequests.task? {session session' : Session α} (h : SameRequests session session')
    (id : Nat) : session'.task? id = session.task? id := by
  simp only [Session.task?, h.tasks]

theorem task?_remove (session : Session α) (other id : Nat) :
    (session.remove other).task? id = if other = id then none else session.task? id := by
  simp only [task?, remove, List.find?_filter]
  split
  next h =>
    refine List.find?_eq_none.2 fun task _ => ?_
    simp [h]
  next h =>
    congr 1
    funext task
    by_cases hid : task.id = id
    · simp [hid, Ne.symm h]
    · simp [hid]

theorem task?_spawn (session : Session α) (task : Task) (id : Nat) :
    (session.spawn task).task? id =
      (session.task? id).or (if task.id = id then some task else none) := by
  simp only [task?, spawn, List.find?_append]
  congr 1
  by_cases h : task.id = id <;> simp [h]

theorem task?_move (session : Session α) (task : Task) (stage : Stage) (id : Nat) :
    (session.move task stage).task? id =
      if task.id = id then some { task with stage } else session.task? id := by
  rw [move, task?_spawn, task?_remove]
  by_cases h : task.id = id <;> simp [h]

/-- With one task to an id, every task is found. -/
theorem task?_of_mem {session : Session α} (hnodup : (session.tasks.map Task.id).Nodup)
    {task : Task} (hmem : task ∈ session.tasks) : session.task? task.id = some task := by
  have hperm := Task.perm_cons_filter_id hnodup hmem
  unfold task?
  cases hfound : session.tasks.find? (·.id == task.id) with
  | none => exact absurd (List.find?_eq_none.1 hfound task hmem) (by simp)
  | some other =>
      have hid : other.id = task.id := by simpa using List.find?_some hfound
      rcases List.mem_cons.1 (hperm.mem_iff.1 (List.mem_of_find?_eq_some hfound)) with h | h
      · rw [h]
      · exact absurd hid (of_decide_eq_true (List.mem_filter.1 h).2)

/-- No task has an id that has not been issued. -/
theorem Accounted.task?_fresh {session : Session α} (h : Accounted session) {id : Nat}
    (hid : session.selector.lastRequest < id) : session.task? id = none := by
  cases hfound : session.task? id with
  | none => rfl
  | some task =>
      obtain ⟨hmem, rfl⟩ := mem_of_task? hfound
      have hentry : task.key ∈ session.ledger :=
        List.mem_append_left _ (List.mem_append_left _ (List.mem_map_of_mem hmem))
      have hbound : task.id ≤ _ := (h.bound _ hentry).2
      omega

theorem task?_closed {session : Session α} (hnodup : (session.tasks.map Task.id).Nodup)
    (id : Nat) : session.closed.task? id = (session.task? id).filter Task.survivesUnmount := by
  cases hfound : session.task? id with
  | none =>
      refine List.find?_eq_none.2 fun task hmem => ?_
      exact List.find?_eq_none.1 hfound task (List.mem_filter.1 hmem).1
  | some task =>
      obtain ⟨hmem, rfl⟩ := mem_of_task? hfound
      have hnodup' : (session.closed.tasks.map Task.id).Nodup :=
        (List.filter_sublist.map Task.id).nodup hnodup
      cases hsurvives : Task.survivesUnmount task with
      | true =>
          have hkept : task ∈ session.closed.tasks := List.mem_filter.2 ⟨hmem, hsurvives⟩
          simpa [Option.filter, hsurvives] using task?_of_mem hnodup' hkept
      | false =>
          simp only [Option.filter, hsurvives, Bool.false_eq_true, if_false]
          refine List.find?_eq_none.2 fun other hother hid => ?_
          obtain ⟨hothermem, hothersurvives⟩ := List.mem_filter.1 hother
          have hsame := task?_of_mem hnodup hothermem
          rw [show other.id = task.id by simpa using hid, hfound] at hsame
          cases hsame
          rw [hsurvives] at hothersurvives
          cases hothersurvives

theorem task?_grant (session : Session α) (hnodup : (session.tasks.map Task.id).Nodup)
    (id : Nat) :
    session.grant.task? id = session.task? id ∨ ∃ task answer, session.task? id = some task ∧
      task.stage = .blocked answer ∧
      session.grant.task? id = some { task with stage := .granted answer } := by
  rcases grant_cases session with ⟨-, h⟩ | ⟨task, answer, hfound, hstage, h⟩ <;> rw [h]
  · exact Or.inl rfl
  · have hmem := List.mem_of_find?_eq_some hfound
    rw [task?_move]
    split
    next hid => exact Or.inr ⟨task, answer, hid ▸ task?_of_mem hnodup hmem, hstage, rfl⟩
    next => exact Or.inl rfl

theorem task?_receive {session : Session α} (hnodup : (session.tasks.map Task.id).Nodup)
    (outcome : Outcome) (rest : List Outcome) (id : Nat) :
    (session.receive outcome rest).task? id = session.task? id ∨
      ∃ task answer, session.task? id = some task ∧ task.stage = .blocked answer ∧
        (session.receive outcome rest).task? id = some { task with stage := .granted answer } := by
  have hgrant := task?_grant
    (({ session with channel := rest } : Session α).emit (.received outcome.kind outcome.id))
    hnodup id
  exact hgrant

theorem takeOut_channel {outcomes rest : List Outcome} {session : Session α}
    (hchannel : session.channel = outcomes ++ rest) :
    (session.takeOut outcomes).channel = rest := by
  induction outcomes generalizing session with
  | nil => exact hchannel
  | cons outcome later ih =>
      rw [takeOut, hchannel, List.cons_append, List.tail_cons]
      exact ih (receive_channel session outcome (later ++ rest))

/-- Taking outcomes out of the channel gives places to some of those who wait for one. -/
theorem task?_takeOut {outcomes rest : List Outcome} {session : Session α}
    (hnodup : (session.ledger.map Prod.snd).Nodup)
    (hchannel : session.channel = outcomes ++ rest) (id : Nat) :
    (session.takeOut outcomes).task? id = session.task? id ∨
      ∃ task answer, session.task? id = some task ∧ task.stage = .blocked answer ∧
        (session.takeOut outcomes).task? id = some { task with stage := .granted answer } := by
  induction outcomes generalizing session with
  | nil => exact Or.inl rfl
  | cons outcome later ih =>
      have hgrant := task?_receive (tasks_nodup hnodup) outcome (later ++ rest) id
      have hnodup' : ((session.receive outcome (later ++ rest)).ledger.map Prod.snd).Nodup :=
        ((ledger_receive (tasks_nodup hnodup) hchannel).map Prod.snd).nodup_iff.2 hnodup
      have hlater := ih hnodup' (receive_channel session outcome (later ++ rest))
      rw [takeOut, hchannel, List.cons_append, List.tail_cons]
      rcases hlater with hlater | ⟨task, answer, hfound, hstage, hlater⟩ <;> rw [hlater]
      · exact hgrant
      · rcases hgrant with hgrant | ⟨other, _, _, _, hgranted⟩
        · exact Or.inr ⟨task, answer, hgrant ▸ hfound, hstage, rfl⟩
        · -- A task that has just been granted its place is not blocked.
          rw [hfound] at hgranted
          cases hgranted
          cases hstage

/-- The task and the outcomes of a request agree with what has been asked and answered. -/
structure Traced (source : Source α) (id : Nat) (asked : Option (RequestKind × String))
    (responses : List (Except CallFailure (Envelope α))) (session : Session α) : Prop where
  fresh : session.selector.lastRequest < id → asked = none ∧ responses = []
  short : responses.length ≤ 1
  task : ∀ task, session.task? id = some task →
    asked = some (task.kind, task.query) ∧ task.Agrees source responses
  outcome : ∀ outcome ∈ session.channel, outcome.id = id → ∃ query response,
    asked = some (outcome.kind, query) ∧ responses = [response] ∧
      outcome.answer = source.fetch query response

namespace Traced

variable {source : Source α} {id : Nat} {asked : Option (RequestKind × String)}
  {responses : List (Except CallFailure (Envelope α))} {session session' : Session α}

theorem start (profile : Profile α) (id : Nat) :
    Traced profile.source id none [] (start profile) where
  fresh _ := ⟨rfl, rfl⟩
  short := Nat.zero_le 1
  task _ htask := by cases htask
  outcome _ hmem := by cases hmem

/-- Nothing is asked or answered, and what is under way was so before. -/
theorem keep (h : Traced source id asked responses session)
    (hlast : session.selector.lastRequest ≤ session'.selector.lastRequest)
    (htask : ∀ task, session'.task? id = some task →
      asked = some (task.kind, task.query) ∧ task.Agrees source responses)
    (hchannel : ∀ outcome ∈ session'.channel, outcome ∈ session.channel) :
    Traced source id asked responses session' where
  fresh hid := h.fresh (Nat.lt_of_le_of_lt hlast hid)
  short := h.short
  task := htask
  outcome outcome hmem := h.outcome outcome (hchannel outcome hmem)

/-- A task for a new request starts. -/
theorem spawn (h : Traced source id asked responses session) (haccounted : Accounted session)
    {task : Task} {due : Nat} (hid : task.id = session.selector.lastRequest + 1)
    (hstage : task.stage = .pending due) (hsame : SameRequests (session.spawn task) session')
    (hlast : session'.selector.lastRequest = session.selector.lastRequest + 1) :
    Traced source id (asked.or (if session.selector.lastRequest + 1 == id then
      some (task.kind, task.query) else none)) responses session' := by
  have htask := hsame.task? id
  have hchannel : session'.channel = session.channel := hsame.channel
  rw [task?_spawn] at htask
  by_cases hnew : session.selector.lastRequest + 1 = id
  · obtain ⟨hasked, hresponses⟩ := h.fresh (by omega)
    have hnone := haccounted.task?_fresh (show _ < id by omega)
    subst hasked hresponses
    simp only [hnew, beq_self_eq_true, if_true, Option.none_or]
    refine ⟨fun hlt => by omega, Nat.zero_le 1, ?_, ?_⟩
    · intro found hfound
      rw [htask, hnone, hid, if_pos hnew, Option.none_or] at hfound
      cases hfound
      simp [Task.Agrees, hstage]
    · intro outcome hmem houtcome
      rw [hchannel] at hmem
      obtain ⟨_, _, himpossible, _⟩ := h.outcome outcome hmem houtcome
      cases himpossible
  · have hnot : (session.selector.lastRequest + 1 == id) = false := by simpa using hnew
    rw [hnot, if_neg Bool.false_ne_true, Option.or_none]
    rw [hid, if_neg hnew, Option.or_none] at htask
    exact h.keep (by omega) (fun found hfound => h.task found (htask ▸ hfound))
      (fun outcome hmem => hchannel ▸ hmem)

/-- A response comes to a task that waits for it. -/
theorem reply (h : Traced source id asked responses session) {task : Task}
    (htask : session.task? id = some task) (hstage : task.stage = .awaiting) :
    asked = some (task.kind, task.query) ∧ responses = [] := by
  obtain ⟨hasked, hagrees⟩ := h.task task htask
  rw [Task.Agrees, hstage] at hagrees
  exact ⟨hasked, hagrees⟩

/-- Of what is under way, only what belongs to an answered request has changed. -/
theorem answered (h : Traced source id asked responses session) {other : Nat} {task : Task}
    {response : Except CallFailure (Envelope α)} (htask : session.task? other = some task)
    (hstage : task.stage = .awaiting)
    (hlast : session'.selector.lastRequest = session.selector.lastRequest)
    (hothers : other ≠ id → session'.task? id = session.task? id)
    (hmoved : other = id → session'.task? id = none ∨
      session'.task? id = some { task with stage := .blocked (source.fetch task.query response) })
    (hchannel : ∀ outcome ∈ session'.channel, outcome ∈ session.channel ∨
      outcome = ⟨task.kind, other, source.fetch task.query response⟩) :
    Traced source id asked (responses ++ session.replies id (.answer other response)) session' := by
  have hreplies : session.replies id (.answer other response) =
      if other = id then [response] else [] := by
    by_cases hid : other = id
    · have hawaits : session.awaits id = true := awaits_iff.2 ⟨task, hid ▸ htask, hstage⟩
      simp [replies, hid, hawaits]
    · simp [replies, hid]
  rw [hreplies]
  by_cases hid : other = id
  · rw [if_pos hid]
    obtain ⟨hasked, hresponses⟩ := h.reply (hid ▸ htask) hstage
    subst hresponses
    refine ⟨fun hlt => ?_, Nat.le_refl 1, ?_, ?_⟩
    · obtain ⟨hnone, -⟩ := h.fresh (hlast ▸ hlt)
      rw [hasked] at hnone
      cases hnone
    · intro found hfound
      rcases hmoved hid with hgone | hblocked
      · rw [hgone] at hfound
        cases hfound
      · rw [hblocked] at hfound
        cases hfound
        exact ⟨hasked, response, rfl, rfl⟩
    · intro outcome hmem houtcome
      rcases hchannel outcome hmem with hmem | rfl
      · obtain ⟨_, _, _, himpossible, _⟩ := h.outcome outcome hmem houtcome
        cases himpossible
      · exact ⟨task.query, response, hasked, rfl, rfl⟩
  · rw [if_neg hid, List.append_nil]
    refine ⟨fun hlt => h.fresh (hlast ▸ hlt), h.short, fun found hfound => ?_, ?_⟩
    · exact h.task found (hothers hid ▸ hfound)
    · intro outcome hmem houtcome
      rcases hchannel outcome hmem with hmem | rfl
      · exact h.outcome outcome hmem houtcome
      · exact absurd houtcome hid

theorem effect {action : Step α} (h : Traced source id asked responses session)
    (haccounted : Accounted session) (hsource : session.profile.source = source)
    (heffect : Effect session action session') :
    Traced source id (asked.or (session.starts id action))
      (responses ++ session.replies id action) session' := by
  have htasks := tasks_nodup haccounted.nodup
  cases heffect with
  | aside hstalls hsame hselector =>
      obtain ⟨hstarts, hreplies⟩ := hstalls.silent id
      rw [hstarts, hreplies, Option.or_none, List.append_nil]
      exact h.keep (Nat.le_of_eq hselector.lastRequest.symm)
        (fun task htask => h.task task (hsame.task? id ▸ htask))
        (fun outcome hmem => hsame.channel ▸ hmem)
  | typed hmounted hsame hselector =>
      simp only [starts, replies, hmounted, Bool.true_and, List.append_nil]
      exact h.spawn haccounted rfl rfl hsame (by rw [hselector])
  | asked hstarts hsame hselector =>
      simp only [starts, replies, hstarts, Bool.true_and, List.append_nil]
      exact h.spawn haccounted rfl rfl hsame (by rw [hselector])
  | took hrest haction hsame hselector =>
      obtain ⟨rest, hrest⟩ := hrest
      have hsilent : session.starts id action = none ∧ session.replies id action = [] := by
        rcases haction with rfl | rfl <;> exact ⟨rfl, rfl⟩
      rw [hsilent.1, hsilent.2, Option.or_none, List.append_nil]
      refine h.keep ?_ (fun task htask => ?_) (fun outcome hmem => ?_)
      · apply Nat.le_of_eq
        rw [hselector, Selector.foldl_take_lastRequest]
      · rw [hsame.task?] at htask
        rcases task?_takeOut haccounted.nodup hrest id with
          hkept | ⟨other, answer, hother, hstage, hgranted⟩
        · exact h.task task (hkept ▸ htask)
        · rw [hgranted] at htask
          cases htask
          obtain ⟨hasked, hagrees⟩ := h.task other hother
          rw [Task.Agrees, hstage] at hagrees
          exact ⟨hasked, hagrees⟩
      · rw [hsame.channel, takeOut_channel hrest] at hmem
        exact hrest ▸ List.mem_append_right _ hmem
  | unmounted hsame hselector =>
      simp only [starts, replies, Option.or_none, List.append_nil]
      refine h.keep ?_ (fun task htask => ?_) (fun outcome hmem => ?_)
      · rw [hselector]
        exact Nat.le_succ _
      · rw [hsame.task?, task?_closed htasks] at htask
        exact h.task task (Option.filter_eq_some_iff.1 htask).1
      · rw [hsame.channel] at hmem
        cases hmem
  | @called other task due _ htask hstage hdue hlatest hsame hselector =>
      simp only [starts, replies, Option.or_none, List.append_nil]
      refine h.keep (Nat.le_of_eq (by rw [hselector])) (fun found hfound => ?_)
        (fun outcome hmem => hsame.channel ▸ hmem)
      have hmove : (session.callFor task).task? id =
          if task.id = id then some { task with stage := .awaiting } else session.task? id :=
        task?_move _ task .awaiting id
      rw [hsame.task?, hmove] at hfound
      split at hfound
      next hid =>
        obtain ⟨-, rfl⟩ := mem_of_task? htask
        obtain ⟨hasked, hagrees⟩ := h.task task (hid ▸ htask)
        rw [Task.Agrees, hstage] at hagrees
        cases hfound
        exact ⟨hasked, hagrees⟩
      next => exact h.task found hfound
  | superseded htask hstage hdue hkind hlatest =>
      simp only [starts, replies, Option.or_none, List.append_nil]
      refine h.keep (Nat.le_refl _) (fun found hfound => ?_) (fun _ hmem => hmem)
      rw [task?_remove] at hfound
      split at hfound
      next => cases hfound
      next => exact h.task found hfound
  | sent htask hstage hmounted hplaces =>
      simp only [starts, Option.or_none]
      refine h.answered htask hstage rfl (fun hid => ?_) (fun hid => Or.inl ?_) ?_
      · exact (task?_remove session _ id).trans (if_neg hid)
      · exact (task?_remove session _ id).trans (if_pos hid)
      · intro outcome hmem
        rcases List.mem_append.1 hmem with hmem | hmem
        · exact Or.inl hmem
        · exact Or.inr (hsource ▸ List.mem_singleton.1 hmem)
  | blocked htask hstage hmounted hplaces =>
      obtain ⟨-, rfl⟩ := mem_of_task? htask
      simp only [starts, Option.or_none]
      refine h.answered htask hstage rfl (fun hid => ?_) (fun hid => Or.inr ?_)
        (fun _ hmem => Or.inl hmem)
      · rw [task?_move, if_neg hid]
      · rw [task?_move, if_pos hid, hsource]
  | lost htask hstage hmounted =>
      simp only [starts, Option.or_none]
      refine h.answered htask hstage rfl (fun hid => ?_) (fun hid => Or.inl ?_)
        (fun _ hmem => Or.inl hmem)
      · rw [task?_remove, if_neg hid]
      · rw [task?_remove, if_pos hid]
  | @filled other task answer htask hstage =>
      simp only [starts, replies, Option.or_none, List.append_nil]
      refine ⟨h.fresh, h.short, fun found hfound => ?_, fun outcome hmem houtcome => ?_⟩
      · have hremove : (session.remove other).task? id = some found := hfound
        rw [task?_remove] at hremove
        split at hremove
        next => cases hremove
        next => exact h.task found hremove
      · rcases List.mem_append.1 hmem with hmem | hmem
        · exact h.outcome outcome hmem houtcome
        · obtain rfl := List.mem_singleton.1 hmem
          obtain rfl : other = id := houtcome
          obtain ⟨hasked, hagrees⟩ := h.task task htask
          rw [Task.Agrees, hstage] at hagrees
          obtain ⟨response, hresponses, hanswer⟩ := hagrees
          exact ⟨task.query, response, hasked, hresponses, hanswer⟩
  | waited ms =>
      simp only [starts, replies, Option.or_none, List.append_nil]
      exact ⟨h.fresh, h.short, h.task, h.outcome⟩

theorem run (profile : Profile α) (id : Nat) (steps : List (Step α)) :
    Traced profile.source id ((Session.start profile).asked id steps)
      ((Session.start profile).responses id steps) ((Session.start profile).run steps) := by
  induction steps using List.reverseRecOn with
  | nil => exact start profile id
  | append_singleton steps action ih =>
      rw [run_concat, asked_concat, responses_concat]
      exact ih.effect (Accounted.run profile steps) (by rw [run_profile]; rfl)
        (step_effect _ action)

end Traced

/-! What runs on fixed inputs are made of. -/

/-- A selector over options as they are. -/
def sampleProfile : Profile SelectOption :=
  { name := "sample", source := { toOption := id }, call := .search }

/-- A response with one option, whose label is its value. -/
def sampleResponse (value : String) : Except CallFailure (Envelope SelectOption) :=
  .ok { data := some [.raw value], error := none }

end Session

end IssueDesk
