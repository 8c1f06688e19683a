import IssueDesk.Proofs.SelectorSearchSide

/-! What concerns the selection has no influence on the searches. A run is followed by the run on
its search side alone (`Mirrors`): every search of the run has its counterpart there, under its own
number and at the same stage, except that it goes on waiting for the backend where in the run it
waits for a place in the channel. A search that has not begun or is over has none on either side, so
that a wake or an answer that comes to nothing in the run comes to nothing there too. A step that
concerns no search leaves the run on the search side as it is; every other step is followed by its
own events. -/

namespace IssueDesk

open Session (searchNumber searchNumber_inj)

/-- A search as it is on the search side alone. -/
def Task.counterpart (ids : List Nat) (task : Task) : Task where
  kind := task.kind
  id := searchNumber ids task.id
  query := task.query
  stage :=
    match task.stage with
    | .pending due => .pending due
    | _ => .awaiting

/-- The outcomes of searches among these, as they are on the search side alone. -/
def counterparts (ids : List Nat) (outcomes : List Outcome) : List Outcome :=
  (outcomes.filter (·.kind.isSearch)).map fun outcome =>
    { outcome with id := searchNumber ids outcome.id }

theorem counterparts_append (ids : List Nat) (outcomes later : List Outcome) :
    counterparts ids (outcomes ++ later) =
      counterparts ids outcomes ++ counterparts ids later := by
  rw [counterparts, List.filter_append, List.map_append]
  rfl

theorem length_counterparts (ids : List Nat) (outcomes : List Outcome) :
    (counterparts ids outcomes).length = outcomes.countP (·.kind.isSearch) := by
  rw [counterparts, List.length_map, List.countP_eq_length_filter]

namespace Selector

/-- Two selectors agree in what is shown of a search, with the latest search under its number. -/
structure Mirrors (ids : List Nat) (selector mirror : Selector) : Prop where
  query : mirror.query = selector.query
  options : mirror.options = selector.options
  loading : mirror.loading = selector.loading
  mounted : mirror.mounted = selector.mounted
  latest : mirror.latestSearch = searchNumber ids selector.latestSearch

theorem Mirrors.of_view {ids : List Nat} {selector selector' mirror : Selector}
    (h : Mirrors ids selector mirror) (hview : SameView selector selector') :
    Mirrors ids selector' mirror where
  query := h.query.trans hview.query.symm
  options := h.options.trans hview.options.symm
  loading := h.loading.trans hview.loading.symm
  mounted := h.mounted.trans hview.mounted.symm
  latest := h.latest.trans (congrArg (searchNumber ids) hview.latestSearch.symm)

/-- An outcome of a lookup changes nothing of what is shown of a search. -/
theorem take_lookup_view (selector : Selector) {outcome : Outcome}
    (hkind : outcome.kind = .lookup) : SameView selector (selector.take outcome) := by
  unfold take
  rw [hkind]
  split <;> exact ⟨rfl, rfl, rfl, rfl, rfl⟩

theorem Mirrors.take {ids : List Nat} {selector mirror : Selector}
    (h : Mirrors ids selector mirror) {outcome : Outcome} (hkind : outcome.kind = .search)
    (hid : outcome.id ∈ ids) :
    Mirrors ids (selector.take outcome)
      (mirror.take { outcome with id := searchNumber ids outcome.id }) := by
  obtain ⟨kind, id, answer⟩ := outcome
  obtain rfl : kind = .search := hkind
  have haccepts : mirror.accepts ⟨.search, searchNumber ids id, answer⟩ =
      selector.accepts ⟨.search, id, answer⟩ := by
    have hsame : (searchNumber ids id == searchNumber ids selector.latestSearch) =
        (id == selector.latestSearch) := by
      rw [Bool.eq_iff_iff, beq_iff_eq, beq_iff_eq]
      exact searchNumber_inj (List.mem_cons_of_mem 0 hid)
    simp only [accepts, Selector.latest, h.mounted, h.latest, hsame]
  unfold Selector.take
  rw [haccepts]
  split
  · exact ⟨h.query, rfl, rfl, h.mounted, h.latest⟩
  · exact h

/-- Of outcomes only those of searches count for what is shown of a search. -/
theorem Mirrors.foldl_take {ids : List Nat} {selector mirror : Selector}
    (h : Mirrors ids selector mirror) {outcomes : List Outcome}
    (hknown : ∀ outcome ∈ outcomes, outcome.kind = .search → outcome.id ∈ ids) :
    Mirrors ids (outcomes.foldl Selector.take selector)
      ((counterparts ids outcomes).foldl Selector.take mirror) := by
  induction outcomes generalizing selector mirror with
  | nil => exact h
  | cons outcome rest ih =>
      have hrest := fun later hmem => hknown later (List.mem_cons_of_mem outcome hmem)
      cases hkind : outcome.kind with
      | lookup =>
          have hnone : counterparts ids (outcome :: rest) = counterparts ids rest := by
            simp [counterparts, hkind]
          rw [hnone, List.foldl_cons]
          exact ih (h.of_view (selector.take_lookup_view hkind)) hrest
      | search =>
          have hone : counterparts ids (outcome :: rest) =
              { outcome with id := searchNumber ids outcome.id } :: counterparts ids rest := by
            simp [counterparts, hkind]
          rw [hone, List.foldl_cons, List.foldl_cons]
          exact ih (h.take hkind (hknown outcome List.mem_cons_self hkind)) hrest

end Selector

namespace Session

/-- Where no task waits for a place, taking outcomes leaves the tasks as they are. -/
theorem takeOut_tasks {session : Session α} (h : ∀ task ∈ session.tasks, task.isBlocked = false)
    (outcomes : List Outcome) : (session.takeOut outcomes).tasks = session.tasks := by
  induction outcomes generalizing session with
  | nil => rfl
  | cons outcome later ih =>
      have hreceive : (session.receive outcome session.channel.tail).tasks = session.tasks := by
        unfold receive
        rcases grant_cases (({ session with channel := session.channel.tail } : Session α).emit
          (.received outcome.kind outcome.id)) with ⟨-, hgrant⟩ | ⟨task, answer, hfound, -, -⟩
        · rw [hgrant]
          rfl
        · have hblocked : task.isBlocked = true := List.find?_some hfound
          rw [h task (List.mem_of_find?_eq_some hfound)] at hblocked
          cases hblocked
      rw [takeOut, ih (hreceive ▸ h), hreceive]

/-- A place that has been given to a task is not filled yet. -/
theorem Queued.length_of_granted {session : Session α} (h : Queued session) {task : Task}
    (hmem : task ∈ session.tasks) (hgranted : task.isGranted = true) :
    session.channel.length < channelCapacity := by
  have hcount : 0 < session.tasks.countP Task.isGranted :=
    List.countP_pos_iff.2 ⟨task, hmem, hgranted⟩
  have hbound := h.bound
  rw [places] at hbound
  omega

/-- A session is followed by one on the search side alone, in which the searches of a run, with
these ids, have their numbers. So many of them have been started so far. -/
structure Mirrors (ids : List Nat) (started : Nat) (session mirror : Session α) : Prop where
  profile : mirror.profile = session.profile
  now : mirror.now = session.now
  selector : Selector.Mirrors ids session.selector mirror.selector
  latest : session.selector.latestSearch ∈ 0 :: ids
  issued : mirror.selector.lastRequest = started
  tasks : ∀ id ∈ ids,
    mirror.task? (searchNumber ids id) = (session.task? id).map (Task.counterpart ids)
  idle : ∀ task ∈ mirror.tasks, task.isBlocked = false ∧ task.isGranted = false
  channel : mirror.channel = counterparts ids session.channel
  calls : mirror.calls .search =
    (session.calls .search).map fun call => (searchNumber ids call.1, call.2)
  lookups : mirror.calls .lookup = []

namespace Mirrors

variable {ids : List Nat} {started : Nat} {session session' mirror mirror' : Session α}

theorem start (profile : Profile α) (ids : List Nat) :
    Mirrors ids 0 (Session.start profile) (Session.start profile) where
  profile := rfl
  now := rfl
  selector := ⟨rfl, rfl, rfl, rfl, (searchNumber_zero ids).symm⟩
  latest := List.mem_cons_self
  issued := rfl
  tasks _ _ := rfl
  idle := nofun
  channel := rfl
  calls := rfl
  lookups := rfl

/-- A step that concerns no search. -/
theorem aside (h : Mirrors ids started session mirror)
    (hprofile : session'.profile = session.profile) (hnow : session'.now = session.now)
    (hview : Selector.SameView session.selector session'.selector)
    (htasks : ∀ id ∈ ids, (session'.task? id).map (Task.counterpart ids) =
      (session.task? id).map (Task.counterpart ids))
    (hchannel : counterparts ids session'.channel = counterparts ids session.channel)
    (hcalls : session'.calls .search = session.calls .search) :
    Mirrors ids started session' mirror where
  profile := h.profile.trans hprofile.symm
  now := h.now.trans hnow.symm
  selector := h.selector.of_view hview
  latest := hview.latestSearch ▸ h.latest
  issued := h.issued
  tasks id hid := (h.tasks id hid).trans (htasks id hid).symm
  idle := h.idle
  channel := h.channel.trans hchannel.symm
  calls := by rw [h.calls, hcalls]
  lookups := h.lookups

/-- A keystroke starts a search in both, and it has the next number. -/
theorem typed (h : Mirrors ids started session mirror) (haccounted : Accounted session)
    (hid : session.selector.lastRequest + 1 ∈ ids)
    (hnumber : searchNumber ids (session.selector.lastRequest + 1) = started + 1)
    (hmounted : session.selector.mounted = true) (query : String) :
    Mirrors ids (started + 1) (session.step (.input query)) (mirror.step (.input query)) := by
  obtain ⟨hsame, hselector⟩ := step_input hmounted query
  obtain ⟨hsame', hselector'⟩ := step_input (h.selector.mounted.trans hmounted) query
  have hlast : searchNumber ids (session.selector.lastRequest + 1) =
      mirror.selector.lastRequest + 1 := by
    rw [hnumber, h.issued]
  refine ⟨?_, ?_, ⟨?_, ?_, ?_, ?_, ?_⟩, ?_, ?_, ?_, ?_, ?_, ?_, ?_⟩
  · exact hsame'.profile.trans (h.profile.trans hsame.profile.symm)
  · exact hsame'.now.trans (h.now.trans hsame.now.symm)
  · rw [hselector, hselector']
  · rw [hselector, hselector']
    exact h.selector.options
  · rw [hselector, hselector']
  · rw [hselector, hselector']
    exact h.selector.mounted
  · rw [hselector, hselector']
    exact hlast.symm
  · rw [hselector]
    exact List.mem_cons_of_mem 0 hid
  · rw [hselector', ← h.issued]
  · intro id hmem
    rw [hsame.task?, hsame'.task?, task?_spawn, task?_spawn, h.tasks id hmem]
    by_cases hnew : session.selector.lastRequest + 1 = id
    · subst hnew
      rw [haccounted.task?_fresh (Nat.lt_succ_self _), hlast, if_pos rfl, if_pos rfl, h.now,
        h.profile]
      simp [Task.counterpart, hlast]
    · have hother : mirror.selector.lastRequest + 1 ≠ searchNumber ids id := by
        rw [← hlast]
        exact fun hsame => hnew ((searchNumber_inj (List.mem_cons_of_mem 0 hid)).1 hsame)
      rw [if_neg hnew, if_neg hother, Option.or_none, Option.or_none]
  · intro task hmem
    rw [hsame'.tasks] at hmem
    rcases List.mem_append.1 hmem with hmem | hmem
    · exact h.idle task hmem
    · obtain rfl := List.mem_singleton.1 hmem
      exact ⟨rfl, rfl⟩
  · rw [hsame'.channel, hsame.channel]
    exact h.channel
  · rw [hsame'.calls, hsame.calls]
    exact h.calls
  · rw [hsame'.calls]
    exact h.lookups

/-- The host takes outcomes, and on the search side those of searches. -/
theorem took (h : Mirrors ids started session mirror) (haccounted : Accounted session)
    (hknown : Known ids session) {outcomes rest : List Outcome}
    (hchannel : session.channel = outcomes ++ rest)
    (hsame : SameRequests (session.takeOut outcomes) session')
    (hselector : session'.selector = outcomes.foldl Selector.take session.selector)
    (hsame' : SameRequests (mirror.takeOut (counterparts ids outcomes)) mirror')
    (hselector' : mirror'.selector =
      (counterparts ids outcomes).foldl Selector.take mirror.selector) :
    Mirrors ids started session' mirror' := by
  have hsplit : mirror.channel = counterparts ids outcomes ++ counterparts ids rest := by
    rw [h.channel, hchannel, counterparts_append]
  obtain ⟨hprofile, hnow, hcalls⟩ := takeOut_keeps session outcomes
  obtain ⟨hprofile', hnow', hcalls'⟩ := takeOut_keeps mirror (counterparts ids outcomes)
  have htasks := takeOut_tasks (fun task hmem => (h.idle task hmem).1) (counterparts ids outcomes)
  have hview := h.selector.foldl_take fun outcome hmem =>
    (hknown.outcome outcome (hchannel ▸ List.mem_append_left rest hmem)).2
  have hlatest : session'.selector.latestSearch = session.selector.latestSearch := by
    rw [hselector]
    exact Selector.foldl_take_latest outcomes session.selector .search
  refine ⟨?_, ?_, ?_, ?_, ?_, ?_, ?_, ?_, ?_, ?_⟩
  · rw [hsame'.profile, hprofile', h.profile, hsame.profile, hprofile]
  · rw [hsame'.now, hnow', h.now, hsame.now, hnow]
  · rw [hselector, hselector']
    exact hview
  · rw [hlatest]
    exact h.latest
  · rw [hselector', Selector.foldl_take_lastRequest]
    exact h.issued
  · intro id hid
    have hkept : mirror'.task? (searchNumber ids id) = mirror.task? (searchNumber ids id) := by
      rw [hsame'.task?, task?, htasks, task?]
    rw [hkept, h.tasks id hid, hsame.task?]
    rcases task?_takeOut haccounted.nodup hchannel id with hold | ⟨old, answer, hold, hstage, hnew⟩
    · rw [hold]
    · rw [hold, hnew]
      simp [Task.counterpart, hstage]
  · intro task hmem
    rw [hsame'.tasks, htasks] at hmem
    exact h.idle task hmem
  · rw [hsame'.channel, takeOut_channel hsplit, hsame.channel, takeOut_channel hchannel]
  · rw [hsame'.calls, hcalls', h.calls, hsame.calls, hcalls]
  · rw [hsame'.calls, hcalls', h.lookups]

/-- A poll takes all outcomes in both. -/
theorem polled (h : Mirrors ids started session mirror) (haccounted : Accounted session)
    (hknown : Known ids session) {rest : List Outcome}
    (hrest : session.channel = session.taken .poll ++ rest)
    (hsame : SameRequests (session.takeOut (session.taken .poll)) session')
    (hselector : session'.selector =
      (session.taken .poll).foldl Selector.take session.selector) :
    Mirrors ids started session' (mirror.step .poll) := by
  have hsame' : SameRequests (mirror.takeOut mirror.channel) (mirror.step .poll) :=
    ((SameRequests.abandon mirror).takeOut _).trans (poll_same mirror.abandon)
  have hselector' : (mirror.step .poll).selector =
      mirror.channel.foldl Selector.take mirror.selector := poll_selector mirror.abandon
  rw [h.channel] at hsame' hselector'
  exact h.took haccounted hknown hrest hsame hselector hsame' hselector'

/-- A host that waits for an update takes outcomes up to a current one. That may be one of a lookup,
so that on the search side just as many outcomes of searches are received. -/
theorem received (h : Mirrors ids started session mirror) (haccounted : Accounted session)
    (hknown : Known ids session) {rest : List Outcome}
    (hrest : session.channel = session.taken .next ++ rest)
    (hsame : SameRequests (session.takeOut (session.taken .next)) session')
    (hselector : session'.selector =
      (session.taken .next).foldl Selector.take session.selector) :
    Mirrors ids started session' (mirror.reactAll
      (List.replicate ((session.taken .next).countP (·.kind.isSearch)) .receive)) := by
  have hsplit : mirror.channel =
      counterparts ids (session.taken .next) ++ counterparts ids rest := by
    rw [h.channel, ← counterparts_append, ← hrest]
  obtain ⟨hsame', hselector'⟩ := receives_spec hsplit
  rw [length_counterparts] at hsame' hselector'
  exact h.took haccounted hknown hrest hsame hselector hsame' hselector'

/-- The counterpart of a search that goes on, or ends, does so too; the other searches stay. -/
theorem tasks_move (h : Mirrors ids started session mirror) {task : Task} (hmem : task.id ∈ ids)
    (stage : Stage) : ∀ id ∈ ids,
      (mirror.move (task.counterpart ids) ({ task with stage }.counterpart ids).stage).task?
          (searchNumber ids id) =
        ((session.move task stage).task? id).map (Task.counterpart ids) := by
  intro id hid
  rw [task?_move, task?_move]
  by_cases hsame : task.id = id
  · have hnumber : (task.counterpart ids).id = searchNumber ids id :=
      congrArg (searchNumber ids) hsame
    rw [if_pos hsame, if_pos hnumber]
    rfl
  · have hnumber : (task.counterpart ids).id ≠ searchNumber ids id := fun hnumber =>
      hsame ((searchNumber_inj (List.mem_cons_of_mem 0 hmem)).1 hnumber)
    rw [if_neg hsame, if_neg hnumber]
    exact h.tasks id hid

theorem tasks_remove (h : Mirrors ids started session mirror) {other : Nat} (hmem : other ∈ ids) :
    ∀ id ∈ ids, (mirror.remove (searchNumber ids other)).task? (searchNumber ids id) =
      ((session.remove other).task? id).map (Task.counterpart ids) := by
  intro id hid
  rw [task?_remove, task?_remove]
  by_cases hsame : other = id
  · rw [if_pos hsame, if_pos (congrArg (searchNumber ids) hsame)]
    rfl
  · rw [if_neg hsame, if_neg fun hnumber =>
      hsame ((searchNumber_inj (List.mem_cons_of_mem 0 hmem)).1 hnumber)]
    exact h.tasks id hid

/-- The counterpart of a search under way. -/
theorem task (h : Mirrors ids started session mirror) {id : Nat} {task : Task} (hid : id ∈ ids)
    (htask : session.task? id = some task) :
    mirror.task? (searchNumber ids id) = some (task.counterpart ids) := by
  rw [h.tasks id hid, htask]
  rfl

/-- A search whose quiet period is over calls the backend. -/
theorem called (h : Mirrors ids started session mirror) {task : Task} {due : Nat}
    (hid : task.id ∈ ids) (htask : session.task? task.id = some task)
    (hstage : task.stage = .pending due) (hdue : due ≤ session.now) (hkind : task.kind = .search)
    (hlatest : session.selector.latestSearch = task.id)
    (hsame : SameRequests (session.callFor task) session')
    (hselector : session'.selector = session.selector) :
    Mirrors ids started session' (mirror.wake (searchNumber ids task.id)) := by
  have hpending : (task.counterpart ids).stage = .pending due := by
    simp [Task.counterpart, hstage]
  have hkind' : (task.counterpart ids).kind = .search := hkind
  have hcounterpart : mirror.task? (task.counterpart ids).id = some (task.counterpart ids) :=
    h.task hid htask
  obtain ⟨hsame', hselector'⟩ := wake_of_latest hcounterpart hpending (h.now.symm ▸ hdue) hkind'
    (h.selector.latest.trans (congrArg (searchNumber ids) hlatest))
  show Mirrors ids started session' (mirror.wake (task.counterpart ids).id)
  refine ⟨?_, ?_, ?_, ?_, ?_, ?_, ?_, ?_, ?_, ?_⟩
  · exact hsame'.profile.trans (h.profile.trans hsame.profile.symm)
  · exact hsame'.now.trans (h.now.trans hsame.now.symm)
  · rw [hselector]
    exact hselector' ▸ h.selector
  · rw [hselector]
    exact h.latest
  · exact (congrArg Selector.lastRequest hselector').trans h.issued
  · intro id hmem
    rw [hsame.task?, hsame'.task?]
    exact h.tasks_move hid .awaiting id hmem
  · intro other hmem
    rw [hsame'.tasks] at hmem
    rcases List.mem_append.1 hmem with hmem | hmem
    · exact h.idle other (List.mem_filter.1 hmem).1
    · obtain rfl := List.mem_singleton.1 hmem
      exact ⟨rfl, rfl⟩
  · exact hsame'.channel.trans (h.channel.trans (congrArg _ hsame.channel.symm))
  · rw [hsame'.calls, calls_callFor, hsame.calls, calls_callFor, if_pos hkind', if_pos hkind,
      List.map_append, h.calls]
    rfl
  · rw [hsame'.calls, calls_callFor, h.lookups, hkind']
    rfl

/-- A search whose quiet period is over gives up if it is not the latest. -/
theorem superseded (h : Mirrors ids started session mirror) {task : Task} {due : Nat}
    (hid : task.id ∈ ids) (htask : session.task? task.id = some task)
    (hstage : task.stage = .pending due) (hdue : due ≤ session.now) (hkind : task.kind = .search)
    (hlatest : session.selector.latestSearch ≠ task.id) :
    Mirrors ids started (session.remove task.id) (mirror.wake (searchNumber ids task.id)) := by
  have hcounterpart := h.task hid htask
  have hpending : (task.counterpart ids).stage = .pending due := by
    simp [Task.counterpart, hstage]
  have hlatest' : mirror.selector.latestSearch ≠ searchNumber ids task.id := by
    rw [h.selector.latest]
    exact fun hsame => hlatest ((searchNumber_inj h.latest).1 hsame)
  have hwake : mirror.wake (searchNumber ids task.id) =
      mirror.remove (searchNumber ids task.id) := by
    have hdue' : ¬ mirror.now < due := Nat.not_lt.2 (h.now.symm ▸ hdue)
    have hkind' : (task.counterpart ids).kind = .search := hkind
    simp [wake, hcounterpart, hpending, hdue', hkind', hlatest']
  rw [hwake]
  exact ⟨h.profile, h.now, h.selector, h.latest, h.issued, h.tasks_remove hid,
    fun other hother => h.idle other (List.mem_filter.1 hother).1, h.channel, h.calls, h.lookups⟩

/-- An outcome of a search gets into the channel. On the search side that is when the answer comes:
there is a place for it, since no more than this is in the channel. -/
theorem answered (h : Mirrors ids started session mirror) {task : Task} (hid : task.id ∈ ids)
    (htask : session.task? task.id = some task) (hstage : ∀ due, task.stage ≠ .pending due)
    (hkind : task.kind = .search) (hmounted : session.selector.mounted = true)
    (hplaces : session.channel.length < channelCapacity)
    (response : Except CallFailure (Envelope α)) :
    Mirrors ids started
      ((session.remove task.id).enqueue
        ⟨task.kind, task.id, session.profile.source.fetch task.query response⟩)
      (mirror.answer (searchNumber ids task.id) response) := by
  have hcounterpart := h.task hid htask
  have hawaiting : (task.counterpart ids).stage = .awaiting := by
    cases hstages : task.stage with
    | pending due => exact absurd hstages (hstage due)
    | _ => simp [Task.counterpart, hstages]
  have hfree : 0 < mirror.freePlaces := by
    have hgranted : mirror.tasks.countP Task.isGranted = 0 :=
      List.countP_eq_zero.2 fun other hmem => by simp [(h.idle other hmem).2]
    have hlength : mirror.channel.length ≤ session.channel.length := by
      rw [h.channel, length_counterparts]
      exact List.countP_le_length
    rw [freePlaces_eq, places, hgranted]
    omega
  have hanswer : mirror.answer (searchNumber ids task.id) response =
      (mirror.remove (searchNumber ids task.id)).enqueue
        ⟨.search, searchNumber ids task.id,
          mirror.profile.source.fetch task.query response⟩ := by
    simp only [answer, hcounterpart, hawaiting, h.selector.mounted, hmounted, Bool.not_true,
      Bool.false_eq_true, if_false, if_pos hfree]
    simp [Task.counterpart, hkind]
  rw [hanswer]
  refine ⟨h.profile, h.now, h.selector, h.latest, h.issued, h.tasks_remove hid,
    fun other hother => h.idle other (List.mem_filter.1 hother).1, ?_, h.calls, h.lookups⟩
  have hone : counterparts ids
      [⟨task.kind, task.id, session.profile.source.fetch task.query response⟩] =
        [⟨.search, searchNumber ids task.id,
          mirror.profile.source.fetch task.query response⟩] := by
    rw [hkind, h.profile]
    rfl
  show mirror.channel ++ _ = counterparts ids (session.channel ++ _)
  rw [counterparts_append, hone, h.channel]

/-- A lookup starts. -/
theorem asked (h : Mirrors ids started session mirror) (hknown : Known ids session')
    {task : Task} (hkind : task.kind = .lookup)
    (hsame : SameRequests (session.spawn task) session')
    (hview : Selector.SameView session.selector session'.selector) :
    Mirrors ids started session' mirror := by
  refine h.aside hsame.profile hsame.now hview (fun id hid => ?_) (congrArg _ hsame.channel)
    (hsame.calls .search)
  have htask := hsame.task? id
  rw [task?_spawn] at htask
  cases hold : session.task? id with
  | some old => rw [htask, hold, Option.some_or]
  | none =>
      rw [hold, Option.none_or] at htask
      split at htask
      next =>
        have hsearch := (hknown.task id task htask).1 hid
        rw [hkind] at hsearch
        cases hsearch
      next => rw [htask]

/-- A task goes on without a difference to the search side: it is one of a lookup, or it has its
answer and waits for a place in the channel. -/
theorem moved (h : Mirrors ids started session mirror) {task : Task} {stage : Stage}
    (htask : session.task? task.id = some task)
    (hstage : task.id ∈ ids → { task with stage }.counterpart ids = task.counterpart ids)
    (hprofile : session'.profile = session.profile) (hnow : session'.now = session.now)
    (hselector : session'.selector = session.selector)
    (htasks : session'.tasks = (session.move task stage).tasks)
    (hchannel : session'.channel = session.channel)
    (hcalls : session'.calls .search = session.calls .search) :
    Mirrors ids started session' mirror := by
  refine h.aside hprofile hnow (hselector ▸ Selector.SameView.refl _) (fun id hid => ?_)
    (congrArg _ hchannel) hcalls
  have hmove : session'.task? id = (session.move task stage).task? id := by
    rw [task?, htasks, task?]
  rw [hmove, task?_move]
  split
  next hsame =>
    subst hsame
    rw [htask, Option.map_some, Option.map_some, hstage hid]
  next => rfl

/-- A task calls the backend, on the search side if it is one of a search. -/
theorem woken (h : Mirrors ids started session mirror) (hknown : Known ids session) {task : Task}
    {due : Nat} (htask : session.task? task.id = some task) (hstage : task.stage = .pending due)
    (hdue : due ≤ session.now)
    (hlatest : task.kind = .search → session.selector.latestSearch = task.id)
    (hsame : SameRequests (session.callFor task) session')
    (hselector : session'.selector = session.selector) :
    Mirrors ids started session' (mirror.reactAll
      (if task.id ∈ ids then [.wake (searchNumber ids task.id)] else [])) := by
  have hsearch := hknown.task task.id task htask
  by_cases hid : task.id ∈ ids
  · rw [if_pos hid]
    have hkind := hsearch.1 hid
    exact h.called hid htask hstage hdue hkind (hlatest hkind) hsame hselector
  · rw [if_neg hid]
    have hcalls := (hsame.calls .search).trans (calls_callFor session task .search)
    rw [if_neg fun hkind => hid (hsearch.2 hkind), List.append_nil] at hcalls
    exact h.moved htask (fun hmem => absurd hmem hid) hsame.profile hsame.now hselector
      hsame.tasks hsame.channel hcalls

/-- The outcome of a lookup gets into the channel. -/
theorem enqueued (h : Mirrors ids started session mirror) {outcome : Outcome}
    (hid : outcome.id ∉ ids) (hlookup : outcome.kind = .lookup) :
    Mirrors ids started ((session.remove outcome.id).enqueue outcome) mirror := by
  refine h.aside rfl rfl (Selector.SameView.refl _) (fun id hmem => ?_) ?_ rfl
  · show ((session.remove outcome.id).task? id).map _ = _
    have hne : outcome.id ≠ id := by
      rintro rfl
      exact hid hmem
    rw [task?_remove, if_neg hne]
  · have hnone : counterparts ids [outcome] = [] := by
      simp [counterparts, hlookup]
    exact (counterparts_append ids session.channel [outcome]).trans
      ((congrArg _ hnone).trans (List.append_nil _))

/-- An outcome gets into the channel, on the search side if it is one of a search. -/
theorem sends (h : Mirrors ids started session mirror) (hknown : Known ids session) {task : Task}
    (htask : session.task? task.id = some task) (hstage : ∀ due, task.stage ≠ .pending due)
    (hmounted : session.selector.mounted = true)
    (hplaces : session.channel.length < channelCapacity)
    (response : Except CallFailure (Envelope α)) :
    Mirrors ids started
      ((session.remove task.id).enqueue
        ⟨task.kind, task.id, session.profile.source.fetch task.query response⟩)
      (mirror.reactAll
        (if task.id ∈ ids then [.answer (searchNumber ids task.id) response] else [])) := by
  have hsearch := hknown.task task.id task htask
  by_cases hid : task.id ∈ ids
  · rw [if_pos hid]
    exact h.answered hid htask hstage (hsearch.1 hid) hmounted hplaces response
  · rw [if_neg hid]
    cases hkind : task.kind with
    | search => exact absurd (hsearch.2 hkind) hid
    | lookup =>
        have hlookup : (⟨.lookup, task.id, session.profile.source.fetch task.query response⟩ :
            Outcome).kind = .lookup := rfl
        exact h.enqueued hid hlookup

/-- A search that is not woken in the run is not woken on the search side. -/
theorem wake_of_stalls (h : Mirrors ids started session mirror) {id : Nat} (hid : id ∈ ids)
    (hstalls : session.Stalls (.wake id)) : mirror.wake (searchNumber ids id) = mirror := by
  have hcounterpart := h.tasks id hid
  cases htask : session.task? id with
  | none => simp [wake, hcounterpart, htask]
  | some task =>
      rw [htask, Option.map_some] at hcounterpart
      cases hstage : task.stage with
      | pending due =>
          have hearly : mirror.now < due := h.now ▸ hstalls task due htask hstage
          simp [wake, hcounterpart, Task.counterpart, hstage, hearly]
      | _ => simp [wake, hcounterpart, Task.counterpart, hstage]

/-- An answer that no search waits for in the run finds none on the search side, unless the search
still holds one that it has had before. -/
theorem answer_of_stalls (h : Mirrors ids started session mirror) {id : Nat} (hid : id ∈ ids)
    (hawaits : session.awaits id = false) (hheld : session.holdsAnswer id = false)
    (response : Except CallFailure (Envelope α)) :
    mirror.answer (searchNumber ids id) response = mirror := by
  have hcounterpart := h.tasks id hid
  cases htask : session.task? id with
  | none => simp [answer, hcounterpart, htask]
  | some task =>
      rw [htask, Option.map_some] at hcounterpart
      rw [holdsAnswer, htask, Option.any_some] at hheld
      cases hstage : task.stage with
      | pending due => simp [answer, hcounterpart, Task.counterpart, hstage]
      | awaiting =>
          rw [awaits_iff.2 ⟨task, htask, hstage⟩] at hawaits
          cases hawaits
      | _ => simp [Task.isBlocked, Task.isGranted, hstage] at hheld

/-- A step that finds nothing to do in the run comes to nothing on the search side. -/
theorem stalled (h : Mirrors ids started session mirror)
    (responses : Nat → List (Except CallFailure (Envelope α))) {action : Step α}
    (hother : ∀ query, action ≠ .input query) (hstalls : session.Stalls action)
    (hsame : SameRequests session (session.step action)) :
    mirror.reactAll (session.searchEvents ids responses action) = mirror := by
  cases action with
  | input query => exact absurd rfl (hother query)
  | wake id =>
      rw [searchEvents]
      split
      next hid => exact h.wake_of_stalls hid hstalls
      next => rfl
  | answer id response =>
      have hheld : (session.answer id response).holdsAnswer id = session.holdsAnswer id :=
        congrArg (Option.any _) (hsame.task? id)
      rw [searchEvents, hheld]
      split
      next hanswer => exact h.answer_of_stalls hanswer.1 hstalls hanswer.2 response
      next => rfl
  | send id =>
      rw [searchEvents, if_neg]
      · rfl
      rintro ⟨-, hgranted⟩
      -- A task with a place fills it, so that the channel would not be the same.
      obtain ⟨task, htask, hgranted⟩ := (Option.any_eq_true _ _).1 hgranted
      have hchannel := congrArg List.length hsame.channel
      cases hstage : task.stage <;> simp [Task.isGranted, hstage] at hgranted
      simp [step, send, htask, hstage, enqueue, remove] at hchannel
  | poll => cases hstalls
  | next => cases hstalls
  | unmount => cases hstalls
  | wait ms => cases hstalls
  | _ => rfl

/-- A step that starts no search is followed by its events. -/
theorem follow (h : Mirrors ids started session mirror) (haccounted : Accounted session)
    (hqueued : Queued session) {action : Step α} (hknown : Known ids session)
    (hknown' : Known ids (session.step action)) (hother : ∀ query, action ≠ .input query)
    (hmounted : (session.step action).selector.mounted = true)
    {asked : Nat → Option (RequestKind × String)}
    {past responses : Nat → List (Except CallFailure (Envelope α))}
    (htraced : ∀ id, Traced session.profile.source id (asked id) (past id) session)
    (hresponses : ∀ id response, past id = [response] → responses id = [response]) :
    Mirrors ids started (session.step action)
      (mirror.reactAll (session.searchEvents ids responses action)) := by
  have heffect := step_effect session action
  have hstalled := h.stalled responses hother
  have hheld : ∀ id response, action = .answer id response →
      session.answer id response = session.step action := by
    rintro id response rfl
    rfl
  generalize session.step action = session' at heffect hmounted hknown' hstalled hheld ⊢
  cases heffect with
  | aside hstalls hsame hselector hlabels =>
      rw [hstalled hstalls hsame]
      exact h.aside hsame.profile hsame.now hselector.view (fun id _ => by rw [hsame.task?])
        (congrArg _ hsame.channel) (hsame.calls .search)
  | typed => exact absurd rfl (hother _)
  | asked hstarts hsame hselector =>
      refine h.asked hknown' rfl hsame ?_
      rw [hselector]
      exact ⟨rfl, rfl, rfl, rfl, rfl⟩
  | took hrest haction hsame hselector =>
      obtain ⟨rest, hrest⟩ := hrest
      rcases haction with rfl | rfl
      · exact h.polled haccounted hknown hrest hsame hselector
      · exact h.received haccounted hknown hrest hsame hselector
  | unmounted hsame hselector =>
      rw [hselector] at hmounted
      cases hmounted
  | @called id task due _ htask hstage hdue hlatest hsame hselector =>
      obtain ⟨-, rfl⟩ := mem_of_task? htask
      exact h.woken hknown htask hstage hdue hlatest hsame hselector
  | @superseded id task due htask hstage hdue hkind hlatest =>
      obtain ⟨-, rfl⟩ := mem_of_task? htask
      have hid := (hknown.task task.id task htask).2 hkind
      rw [searchEvents, if_pos hid]
      exact h.superseded hid htask hstage hdue hkind hlatest
  | @sent id task response htask hstage hopen hfree =>
      obtain ⟨-, rfl⟩ := mem_of_task? htask
      have hplaces : session.channel.length < channelCapacity := by
        rw [freePlaces_eq, places] at hfree
        omega
      have hgone : (session.answer task.id response).holdsAnswer task.id = false := by
        rw [hheld _ _ rfl]
        show ((session.remove task.id).task? task.id).any _ = false
        rw [task?_remove, if_pos rfl]
        rfl
      simp only [searchEvents, hgone, and_true]
      exact h.sends hknown htask (fun due => by simp [hstage]) hopen hplaces response
  | @blocked id task response htask hstage hopen hfree =>
      obtain ⟨-, rfl⟩ := mem_of_task? htask
      have hholds : (session.answer task.id response).holdsAnswer task.id = true := by
        rw [hheld _ _ rfl, holdsAnswer, task?_move, if_pos rfl]
        rfl
      simp only [searchEvents, hholds, Bool.true_eq_false, and_false, if_false, reactAll_nil]
      exact h.moved htask (fun _ => by simp [Task.counterpart, hstage]) rfl rfl rfl rfl rfl rfl
  | lost htask hstage hopen =>
      exact absurd (hopen.symm.trans hmounted) Bool.false_ne_true
  | @filled id task answer htask hstage =>
      obtain ⟨hmem, rfl⟩ := mem_of_task? htask
      obtain ⟨-, hagrees⟩ := (htraced task.id).task task htask
      rw [Task.Agrees, hstage] at hagrees
      obtain ⟨response, hpast, rfl⟩ := hagrees
      have hgranted : task.isGranted = true := by rw [Task.isGranted, hstage]
      have hplaces := hqueued.length_of_granted hmem hgranted
      simp only [searchEvents, htask, Option.any_some, hgranted, and_true,
        hresponses _ _ hpast, List.map_cons, List.map_nil]
      exact h.sends hknown htask (fun due => by simp [hstage]) hmounted hplaces response
  | waited ms =>
      exact ⟨h.profile, congrArg (· + ms) h.now, h.selector, h.latest, h.issued, h.tasks, h.idle,
        h.channel, h.calls, h.lookups⟩

/-- What a run brings so far is followed on its search side, whatever comes later. The searches have
the numbers, and the responses, that they have in the whole run. -/
theorem run (profile : Profile α) (steps later : List (Step α))
    (hmounted : ((Session.start profile).run steps).selector.mounted = true) :
    let start := Session.start profile
    let ids := start.searchIds (steps ++ later)
    Mirrors ids (start.searchIds steps).length (start.run steps)
      (start.reactAll
        (start.gathered (searchEvents ids (start.responses · (steps ++ later))) steps)) := by
  intro start ids
  induction steps using List.reverseRecOn generalizing later with
  | nil => exact Mirrors.start profile ids
  | append_singleton steps action ih =>
      have hbefore := mounted_before steps [action] hmounted
      have hmirrors := ih (action :: later) hbefore
      have hresponses : ∀ id response, start.responses id steps = [response] →
          start.responses id (steps ++ action :: later) = [response] :=
        fun id response h => responses_settled profile id h (action :: later)
      simp only [ids, List.append_assoc, List.singleton_append]
      rw [run_concat] at hmounted
      rw [run_concat, gathered_concat, reactAll_append, searchIds_concat]
      cases hstarts : (start.run steps).startsSearch? action with
      | some id =>
          obtain ⟨query, rfl, -, rfl⟩ := startsSearch?_eq_some hstarts
          obtain ⟨hid, hnumber⟩ := searchNumber_input profile steps later query hbefore
          rw [Option.toList_some, List.length_append]
          exact hmirrors.typed (Accounted.run profile steps) hid hnumber hbefore query
      | none =>
          have hother : ∀ query, action ≠ .input query := by
            rintro query rfl
            rw [startsSearch?, if_pos hbefore] at hstarts
            cases hstarts
          have htraced : ∀ id, Traced (start.run steps).profile.source id (start.asked id steps)
              (start.responses id steps) (start.run steps) := by
            rw [run_profile]
            exact fun id => Traced.run profile id steps
          have hknown' := Known.run profile (steps ++ [action]) later
          rw [run_concat, List.append_assoc, List.singleton_append] at hknown'
          rw [Option.toList_none, List.append_nil]
          exact hmirrors.follow (Accounted.run profile steps) (Queued.run profile steps)
            (Known.run profile steps (action :: later)) hknown' hother hmounted htraced hresponses

end Mirrors

/-- In every run of a mounted selector the searches go as they do on the search side alone, where
nothing is ever selected or looked up: the query, the options and the loading flag are the same, and
so are the calls for searches, in their order and with their texts. -/
theorem search_side_stands_alone (profile : Profile α) (steps : List (Step α))
    (hmounted : ((start profile).run steps).selector.mounted = true) :
    let session := (start profile).run steps
    let alone := (start profile).reactAll (searchSide profile steps)
    alone.selector.query = session.selector.query ∧
      alone.selector.options = session.selector.options ∧
      alone.selector.loading = session.selector.loading ∧
      alone.calls .search = (session.calls .search).map (fun call =>
        (searchNumber ((start profile).searchIds steps) call.1, call.2)) ∧
      alone.calls .lookup = [] := by
  have h := Mirrors.run profile steps [] hmounted
  rw [List.append_nil] at h
  exact ⟨h.selector.query, h.selector.options, h.selector.loading, h.calls, h.lookups⟩

/-- Two searches with a lookup between them. The first is woken too early and answered once more
when it is over. The host waits for an update and gets that of the lookup, so that it leaves the
answer to the latest search in the channel; then it searches itself, and polls. -/
def interleavedRun : List (Step SelectOption) :=
  [.input "a", .wake 1, .wait 400, .wake 1, .value (.single "x"), .wake 2, .input "ab", .wait 400,
    .wake 3, .answer 1 (sampleResponse "a"), .answer 2 (sampleResponse "x"),
    .answer 1 (sampleResponse "b"), .answer 3 (sampleResponse "ab"), .next, .search "c",
    .finish (sampleResponse "c"), .poll]

theorem interleaved_searches_stand_alone :
    let session := (start sampleProfile).run interleavedRun
    let alone := (start sampleProfile).reactAll (searchSide sampleProfile interleavedRun)
    session.selector.mounted = true ∧ session.selector.labels = [.raw "x"] ∧
      session.calls .search = [(1, "a"), (3, "ab")] ∧
      searchSide sampleProfile interleavedRun =
        [.input "a", .wake 1, .wait 400, .wake 1, .input "ab", .wait 400, .wake 2,
          .answer 1 (sampleResponse "a"), .answer 1 (sampleResponse "b"),
          .answer 2 (sampleResponse "ab"), .receive, .poll] ∧
      alone.selector.query = "ab" ∧ alone.selector.options = [.raw "ab"] ∧
      alone.selector.loading = false ∧ alone.calls .search = [(1, "a"), (2, "ab")] := by
  intro session alone
  have hmounted : session.selector.mounted = true := by decide
  obtain ⟨hquery, hoptions, hloading, hcalls, -⟩ :=
    search_side_stands_alone sampleProfile interleavedRun hmounted
  exact ⟨hmounted, by decide, by decide, rfl, hquery, hoptions.trans (by decide),
    hloading.trans (by decide), hcalls.trans (by decide)⟩

end Session

end IssueDesk
