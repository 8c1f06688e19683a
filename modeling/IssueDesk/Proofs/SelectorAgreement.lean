import IssueDesk.CommandLine.Outcome
import IssueDesk.Proofs.SelectorErrors

/-! A keystroke and a search of the host's own come to the same. The search of a keystroke waits for
its time, calls the backend, sends its outcome into the channel and is taken out of it; the host's
own search asks and has its answer. From a session in which nothing is under way both give the same
options and leave the same error state, and the host is told the same of it, whatever the backend
answers and however the steps of the search are spread over time (`Searching`). The command that
shows recorded responses goes the first way, and so it gives what the second one gives. -/

namespace IssueDesk

open Wire

namespace Session

/-- The selector is mounted, no request is under way and no outcome is left to be taken. -/
structure Idle (session : Session α) : Prop where
  mounted : session.selector.mounted = true
  tasks : session.tasks = []
  channel : session.channel = []

theorem Idle.start (profile : Profile α) : Idle (start profile) := ⟨rfl, rfl, rfl⟩

/-- A step that goes on while the host waits. A task is answered what the backend answers to its
query. -/
def InBackground (backend : String → Except CallFailure (Envelope α)) (session : Session α) :
    Step α → Prop
  | .wake _ | .send _ | .wait _ => True
  | .answer id response =>
      ∀ task, session.task? id = some task → response = backend task.query
  | _ => False

/-- The host waits while all of some steps are made. -/
def Unattended (backend : String → Except CallFailure (Envelope α)) (session : Session α) :
    List (Step α) → Prop
  | [] => True
  | action :: later =>
      session.InBackground backend action ∧ (session.step action).Unattended backend later

/-- A search of the host's own and its answer, with the options that it gives. -/
def searchNow (backend : String → Except CallFailure (Envelope α)) (session : Session α)
    (query : String) : Session α × List SelectOption :=
  (session.step (.search query)).finishDirect (backend query)

variable {backend : String → Except CallFailure (Envelope α)} {session : Session α}
  {query : String}

theorem unattended_append {steps later : List (Step α)} :
    session.Unattended backend (steps ++ later) ↔
      session.Unattended backend steps ∧ (session.run steps).Unattended backend later := by
  induction steps generalizing session with
  | nil => exact ⟨fun h => ⟨trivial, h⟩, fun h => h.2⟩
  | cons action rest ih =>
      have hrest : (session.step action).Unattended backend (rest ++ later) ↔ _ := ih
      simp only [List.cons_append, Unattended, hrest, and_assoc]
      rfl

theorem step_profile (session : Session α) (action : Step α) :
    (session.step action).profile = session.profile :=
  (step_effect session action).profile

theorem InBackground.quiet {action : Step α} (h : session.InBackground backend action) :
    Quiet session (session.step action) := by
  cases action with
  | wake id => exact wake_quiet session id
  | answer id response => exact answer_quiet session id response
  | send id => exact send_quiet session id
  | wait ms => exact ⟨rfl, rfl⟩
  | _ => exact absurd h id

/-- A keystroke starts its search and nothing else. -/
theorem Idle.typed (h : session.Idle) (query : String) :
    let typed := session.step (.input query)
    typed.selector.mounted = true ∧ typed.channel = [] ∧
      typed.tasks = [⟨.search, typed.selector.latestSearch, query,
        .pending (typed.now + session.profile.debounce)⟩] := by
  obtain ⟨hsame, hselector⟩ := inputChanged_of_mounted session.abandon query h.mounted
  dsimp only [Session.step]
  refine ⟨(congrArg Selector.mounted hselector).trans h.mounted, hsame.channel.trans h.channel, ?_⟩
  rw [hsame.tasks, hsame.now, hselector]
  simp [spawn, abandon, h.tasks]

theorem searchNow_snd (backend : String → Except CallFailure (Envelope α)) (session : Session α)
    (query : String) :
    (session.searchNow backend query).2 =
      (session.profile.source.fetch query (backend query)).settled := by
  have hdirect : (session.step (.search query)).direct = some ⟨query, false⟩ := rfl
  unfold searchNow finishDirect
  simp only [hdirect, step_profile, Bool.false_and, Bool.false_eq_true, if_false]
  exact settle_snd _ _ _

theorem errorChannel_searchNow (backend : String → Except CallFailure (Envelope α))
    (query : String) (hmounted : session.selector.mounted = true) :
    (session.searchNow backend query).1.errorChannel =
      if (session.profile.source.fetch query (backend query)).failed then
        (session.errorChannel.report false).report true
      else session.errorChannel.report false := by
  have hdirect : (session.step (.search query)).direct = some ⟨query, false⟩ := rfl
  have hbegun : (session.step (.search query)).errorChannel = session.errorChannel.report false :=
    errorChannel_beginSearch session.abandon query false
  have hmounted' : (session.step (.search query)).selector.mounted = true := by
    simp [step, beginSearch, emit, abandon, hmounted]
  unfold searchNow
  rw [errorChannel_finishDirect, hbegun, hdirect, step_profile, hmounted']
  simp

/-! The search of a keystroke, step by step. -/

/-- How far a search has come when nothing else is under way. -/
inductive SearchStage (id : Nat) (query : String) (answer : Answer) :
    List Task → List Outcome → Prop
  | pending (due : Nat) : SearchStage id query answer [⟨.search, id, query, .pending due⟩] []
  | awaiting : SearchStage id query answer [⟨.search, id, query, .awaiting⟩] []
  | sent : SearchStage id query answer [] [⟨.search, id, answer⟩]

/-- A task that is under way is the one of the search. It has sent nothing yet. -/
theorem SearchStage.of_mem {id : Nat} {answer : Answer} {tasks : List Task}
    {channel : List Outcome} (h : SearchStage id query answer tasks channel) {task : Task}
    (hmem : task ∈ tasks) :
    tasks = [task] ∧ channel = [] ∧ task = ⟨.search, id, query, task.stage⟩ ∧
      ((∃ due, task.stage = .pending due) ∨ task.stage = .awaiting) := by
  cases h with
  | pending due =>
      obtain rfl := List.mem_singleton.1 hmem
      exact ⟨rfl, rfl, rfl, Or.inl ⟨due, rfl⟩⟩
  | awaiting =>
      obtain rfl := List.mem_singleton.1 hmem
      exact ⟨rfl, rfl, rfl, Or.inr rfl⟩
  | sent => cases hmem

/-- Since a keystroke nothing but its search has been under way, and the selector is as the
keystroke has left it. -/
structure Searching (backend : String → Except CallFailure (Envelope α)) (query : String)
    (typed session : Session α) : Prop where
  profile : session.profile = typed.profile
  mounted : session.selector.mounted = true
  quiet : Quiet typed session
  stage : SearchStage typed.selector.latestSearch query
    (typed.profile.source.fetch query (backend query)) session.tasks session.channel

namespace Searching

variable {typed : Session α}

theorem of_idle (h : session.Idle) (backend : String → Except CallFailure (Envelope α))
    (query : String) :
    Searching backend query (session.step (.input query)) (session.step (.input query)) := by
  obtain ⟨hmounted, hchannel, htasks⟩ := h.typed query
  refine ⟨rfl, hmounted, ⟨rfl, rfl⟩, ?_⟩
  rw [htasks, hchannel]
  exact .pending _

/-- The task of an id is the search, which has its stage still before it. -/
theorem of_task? (h : Searching backend query typed session) {id : Nat} {task : Task}
    (htask : session.task? id = some task) :
    session.tasks = [task] ∧ session.channel = [] ∧ id = typed.selector.latestSearch ∧
      task = ⟨.search, id, query, task.stage⟩ ∧
      ((∃ due, task.stage = .pending due) ∨ task.stage = .awaiting) := by
  obtain ⟨hmem, rfl⟩ := mem_of_task? htask
  obtain ⟨htasks, hchannel, htask, hstage⟩ := h.stage.of_mem hmem
  have hid : task.id = typed.selector.latestSearch := congrArg Task.id htask
  exact ⟨htasks, hchannel, hid, hid ▸ htask, hstage⟩

theorem step (h : Searching backend query typed session) {action : Step α}
    (hbackground : session.InBackground backend action) :
    Searching backend query typed (session.step action) := by
  have hquiet := hbackground.quiet
  have heffect := step_effect session action
  generalize session.step action = session' at hquiet heffect
  refine ⟨heffect.profile.trans h.profile,
    (congrArg Selector.mounted hquiet.selector).trans h.mounted,
    ⟨hquiet.selector.trans h.quiet.selector, hquiet.errorChannel.trans h.quiet.errorChannel⟩, ?_⟩
  cases heffect with
  | aside hstalls hsame =>
      rw [hsame.tasks, hsame.channel]
      exact h.stage
  | typed => exact absurd hbackground id
  | asked => exact absurd hbackground id
  | took hrest haction => rcases haction with rfl | rfl <;> exact absurd hbackground id
  | unmounted => exact absurd hbackground id
  | @called id task due _ htask hstage hdue hlatest hsame =>
      obtain ⟨htasks, hchannel, rfl, heq, -⟩ := h.of_task? htask
      have htasks' : (session.callFor task).tasks =
          [⟨.search, typed.selector.latestSearch, query, .awaiting⟩] := by
        rw [heq] at htasks ⊢
        simp [callFor, move, remove, spawn, emit, htasks]
      have hchannel' : (session.callFor task).channel = [] := hchannel
      rw [hsame.tasks, hsame.channel, htasks', hchannel']
      exact .awaiting
  | superseded htask hstage hdue hkind hlatest =>
      obtain ⟨-, -, hid, -⟩ := h.of_task? htask
      rw [h.quiet.selector] at hlatest
      exact absurd hid.symm hlatest
  | @sent id task response htask hstage _ hplaces =>
      obtain ⟨htasks, hchannel, rfl, heq, -⟩ := h.of_task? htask
      have hresponse : response = backend task.query := hbackground task htask
      rw [heq] at htasks hresponse ⊢
      simp only [remove, enqueue, htasks, hchannel, hresponse, h.profile]
      simpa using SearchStage.sent
  | @blocked id task response htask hstage _ hplaces =>
      obtain ⟨htasks, hchannel, -⟩ := h.of_task? htask
      simp [freePlaces, htasks, hchannel, hstage, channelCapacity] at hplaces
  | lost htask hstage hclosed =>
      rw [h.mounted] at hclosed
      cases hclosed
  | filled htask hstage =>
      obtain ⟨-, -, -, -, hbefore⟩ := h.of_task? htask
      rw [hstage] at hbefore
      rcases hbefore with ⟨due, hpending⟩ | hawaiting
      · cases hpending
      · cases hawaiting
  | waited ms => exact h.stage

theorem run (h : Searching backend query typed session) {steps : List (Step α)}
    (hsteps : session.Unattended backend steps) :
    Searching backend query typed (session.run steps) := by
  induction steps generalizing session with
  | nil => exact h
  | cons action later ih => exact ih (h.step hsteps.1) hsteps.2

/-- Until the outcome has been sent the host waits. Then it takes the outcome, which counts. -/
theorem nextUpdate (h : Searching backend query typed session) :
    let answer := typed.profile.source.fetch query (backend query)
    (session.channel = [] ∧ session.nextUpdate = (session, .waiting)) ∨
      session.channel ≠ [] ∧ session.nextUpdate.2 = .applied .search ∧
        session.nextUpdate.1.selector.options = answer.settled ∧
        session.nextUpdate.1.errorChannel =
          if answer.failed then typed.errorChannel.report true else typed.errorChannel := by
  intro answer
  have hwaiting (hchannel : session.channel = []) : session.nextUpdate = (session, .waiting) := by
    simp [Session.nextUpdate, h.mounted, hchannel, takeUntilCurrent]
  have hstage := h.stage
  generalize htasks : session.tasks = tasks, hchannel : session.channel = channel at hstage
  cases hstage with
  | pending due => exact Or.inl ⟨rfl, hwaiting hchannel⟩
  | awaiting => exact Or.inl ⟨rfl, hwaiting hchannel⟩
  | sent =>
      have haccepts : session.selector.accepts
          ⟨.search, typed.selector.latestSearch, answer⟩ = true := by
        simp [Selector.accepts, Selector.latest, h.mounted, ← h.quiet.selector]
      have huntil : session.selector.untilAccepted session.channel =
          [⟨.search, typed.selector.latestSearch, answer⟩] := by
        rw [hchannel]
        simp only [Selector.untilAccepted, answer, haccepts, if_true]
      have hkind := apply_snd (session.receive ⟨.search, typed.selector.latestSearch, answer⟩ [])
        ⟨.search, typed.selector.latestSearch, answer⟩
      rw [receive_selector, haccepts, if_pos rfl] at hkind
      obtain ⟨-, hselector⟩ := next_same session h.mounted
      refine Or.inr ⟨List.cons_ne_nil _ _, ?_, ?_, ?_⟩
      · simp only [Session.nextUpdate, h.mounted, hchannel, takeUntilCurrent]
        simp [answer, hkind]
      · rw [hselector, huntil]
        simp [Selector.take, haccepts]
      · rw [errorChannel_nextUpdate, h.quiet.errorChannel]
        simp [taken, h.mounted, huntil, Selector.alarmed, haccepts]

/-- The answer of the backend is all that a search waits for that has called it. -/
theorem answered (h : Searching backend query typed session) {id : Nat}
    (htasks : session.tasks = [⟨.search, id, query, .awaiting⟩]) :
    session.Unattended backend [.answer id (backend query)] ∧
      (session.run [.answer id (backend query)]).channel ≠ [] := by
  have htask : session.task? id = some ⟨.search, id, query, .awaiting⟩ := by simp [task?, htasks]
  obtain ⟨-, hchannel, -⟩ := h.of_task? htask
  refine ⟨⟨fun task hfound => ?_, trivial⟩, ?_⟩
  · rw [htask] at hfound
    cases hfound
    rfl
  · have hplaces : 0 < session.freePlaces := by
      simp [freePlaces, htasks, hchannel, channelCapacity]
    simp [Session.run, Session.step, answer, htask, h.mounted, hplaces, enqueue]

/-- A search that waits for its time calls the backend once that has come. -/
theorem woken (h : Searching backend query typed session) {id due ms : Nat}
    (htasks : session.tasks = [⟨.search, id, query, .pending due⟩])
    (hdue : due ≤ session.now + ms) :
    (session.run [.wait ms, .wake id]).tasks = [⟨.search, id, query, .awaiting⟩] := by
  have htask : (session.wait ms).task? id = some ⟨.search, id, query, .pending due⟩ := by
    simp [task?, wait, htasks]
  have hlatest : (session.wait ms).selector.latestSearch = id := by
    obtain ⟨-, -, hid, -⟩ := h.of_task? (show session.task? id = some _ from htask)
    exact (congrArg Selector.latestSearch h.quiet.selector).trans hid.symm
  have hdue' : ¬ (session.wait ms).now < due := Nat.not_lt.2 hdue
  simp only [Session.run, List.foldl_cons, List.foldl_nil, Session.step, wake, htask, hdue',
    hlatest, if_true, if_false]
  simp [callFor, move, remove, spawn, emit, Session.log, wait, htasks]

theorem sent_of_pending (h : Searching backend query typed session) {id due ms : Nat}
    (htasks : session.tasks = [⟨.search, id, query, .pending due⟩])
    (hdue : due ≤ session.now + ms) :
    session.Unattended backend [.wait ms, .wake id, .answer id (backend query)] ∧
      (session.run [.wait ms, .wake id, .answer id (backend query)]).channel ≠ [] := by
  have hsearching : Searching backend query typed (session.run [.wait ms, .wake id]) :=
    h.run ⟨trivial, trivial, trivial⟩
  obtain ⟨hanswer, hchannel⟩ := hsearching.answered (h.woken htasks hdue)
  exact ⟨⟨trivial, trivial, hanswer⟩, hchannel⟩

/-- Whatever has been done of a search, it can be brought to its end. -/
theorem exists_sent (h : Searching backend query typed session) :
    ∃ later, session.Unattended backend later ∧ (session.run later).channel ≠ [] := by
  have hstage := h.stage
  generalize htasks : session.tasks = tasks, hchannel : session.channel = channel at hstage
  cases hstage with
  | pending due => exact ⟨_, h.sent_of_pending htasks (Nat.le_add_left due _)⟩
  | awaiting => exact ⟨_, h.answered htasks⟩
  | sent => exact ⟨[], trivial, by simp [Session.run, hchannel]⟩

end Searching

/-- Once its outcome has been sent, a search that has waited shows what a search at once gives. -/
theorem nextUpdate_of_unattended (hidle : session.Idle) {steps : List (Step α)}
    (hsteps : (session.step (.input query)).Unattended backend steps) :
    let waited := (session.step (.input query)).run steps
    let direct := session.searchNow backend query
    (waited.channel = [] ∧ waited.nextUpdate = (waited, .waiting)) ∨
      waited.channel ≠ [] ∧ waited.nextUpdate.2 = .applied .search ∧
        waited.nextUpdate.1.selector.options = direct.2 ∧
        waited.nextUpdate.1.errorChannel = direct.1.errorChannel := by
  have hreported : (session.step (.input query)).errorChannel =
      session.errorChannel.report false := by
    refine (errorChannel_inputChanged session.abandon query).trans ?_
    rw [if_pos (show session.abandon.selector.mounted = true from hidle.mounted)]
    rfl
  have hupdate := ((Searching.of_idle hidle backend query).run hsteps).nextUpdate
  rw [step_profile, hreported] at hupdate
  dsimp only
  rw [searchNow_snd, errorChannel_searchNow _ _ hidle.mounted]
  exact hupdate

/-! A recorded response. -/

theorem replay_eq (profile : Profile α) (query : String)
    (response : Except CallFailure (Envelope α)) :
    let typed := (start profile).step (.input query)
    let id := typed.selector.latestSearch
    replay profile query response =
      (typed.run [.wait profile.debounce, .wake id, .answer id response]).nextUpdate.1 := rfl

/-- A recorded response shows what a search for it gives. -/
theorem replay_agrees (profile : Profile α) (query : String)
    (response : Except CallFailure (Envelope α)) :
    let session := replay profile query response
    let direct := (start profile).searchNow (fun _ => response) query
    session.selector.options = direct.2 ∧
      session.selector.hasError = (profile.source.fetch query response).failed := by
  have hidle := Idle.start profile
  obtain ⟨-, -, htasks⟩ := hidle.typed query
  obtain ⟨hsteps, hsent⟩ := (Searching.of_idle hidle (fun _ => response) query).sent_of_pending
    htasks (Nat.le_refl _)
  have hchannel := errorChannel_searchNow (fun _ => response) query hidle.mounted
  rcases nextUpdate_of_unattended hidle hsteps with ⟨hempty, -⟩ | ⟨-, -, hoptions, herror⟩
  · exact absurd hempty hsent
  · refine ⟨hoptions, ?_⟩
    have hhasError := congrArg ErrorChannel.hasError (herror.trans hchannel)
    rw [replay_eq]
    refine hhasError.trans ?_
    show (if (profile.source.fetch query response).failed then _ else _ : ErrorChannel).hasError = _
    cases (profile.source.fetch query response).failed <;> simp

/-- A JSON value gives options if it is an envelope without an error. -/
theorem fetch_readResponse_failed (source : Source α) (query : String) (codec : Codec α)
    (payload : Json) :
    (source.fetch query (readResponse (Envelope.codec codec) (.ok payload))).failed = false ↔
      ∃ envelope, (Envelope.codec codec).ofJson payload = .ok envelope ∧ envelope.error = none := by
  cases hread : (Envelope.codec codec).decode .value (Document.ofJson payload) with
  | error fault => simp [readResponse, Codec.ofJson, Source.fetch, hread, Answer.failed]
  | ok envelope =>
      cases herror : envelope.error <;>
        simp [readResponse, Codec.ofJson, Source.fetch, hread, herror, Answer.failed]

/-- What a search makes of a keystroke depends neither on the quiet period nor on when the backend
answers. From a session in which nothing is under way the host waits after a keystroke until the
outcome has been sent. Then it takes a search, and finds the options that its own search would have
given, the same error state and the same told of it; and the search can always be brought to that
end. So the command for recorded responses gives the options of such a search, and rejects the
response just if it is no envelope or carries an error. -/
theorem debounced_search_agrees :
    (∀ {α : Type} (backend : String → Except CallFailure (Envelope α)) (session : Session α)
        (query : String) (steps : List (Step α)), session.Idle →
        (session.step (.input query)).Unattended backend steps →
        let waited := (session.step (.input query)).run steps
        let direct := session.searchNow backend query
        (waited.nextUpdate = (waited, .waiting) ∨
          waited.nextUpdate.2 = .applied .search ∧
            waited.nextUpdate.1.selector.options = direct.2 ∧
            waited.nextUpdate.1.errorChannel = direct.1.errorChannel) ∧
        ∃ later, waited.Unattended backend later ∧
          (waited.run later).nextUpdate.2 = .applied .search) ∧
    ∀ (files : Files) (configuration : Configuration) (kind : CommandLine.EntityKind)
        (path : Path) (query text : String) (payload : Json),
        files path = some text → Json.ofText text = .ok payload →
        let flavour := kind.flavour.withDebounce configuration.debounce
        let codec := Envelope.codec flavour.codec
        let found := ((CommandLine.Command.options kind path query).find files configuration).2
        let direct :=
          (start flavour.profile).searchNow (fun _ => readResponse codec (.ok payload)) query
        ((∃ envelope, codec.ofJson payload = .ok envelope ∧ envelope.error = none) →
          found = .ok { value := CommandLine.optionList direct.2 }) ∧
        ((¬ ∃ envelope, codec.ofJson payload = .ok envelope ∧ envelope.error = none) →
          found = .error .rejected) := by
  refine ⟨fun backend session query steps hidle hsteps => ?_,
    fun files configuration kind path query text payload hfile htext => ?_⟩
  · refine ⟨(nextUpdate_of_unattended hidle hsteps).imp And.right And.right, ?_⟩
    have hsearching := (Searching.of_idle hidle backend query).run hsteps
    obtain ⟨later, hlater, hsent⟩ := hsearching.exists_sent
    refine ⟨later, hlater, ?_⟩
    rw [← run_append] at hsent ⊢
    rcases nextUpdate_of_unattended hidle (unattended_append.2 ⟨hsteps, hlater⟩) with
      ⟨hempty, -⟩ | ⟨-, happlied, -⟩
    · exact absurd hempty hsent
    · exact happlied
  · intro flavour codec found direct
    obtain ⟨hoptions, herror⟩ :=
      replay_agrees flavour.profile query (readResponse codec (.ok payload))
    have hread := fetch_readResponse_failed flavour.profile.source query flavour.codec payload
    have hpayload : CommandLine.readPayload files path = .ok payload := by
      simp [CommandLine.readPayload, hfile, htext, Except.mapError]
    have hfound : found = CommandLine.optionsOf
        (replay flavour.profile query (readResponse codec (.ok payload))) := by
      simp only [found, CommandLine.Command.find, CommandLine.findOptions, hpayload]
      rfl
    rw [← hread, hfound]
    unfold CommandLine.optionsOf
    rw [herror, hoptions]
    refine ⟨fun hsound => ?_, fun hunsound => ?_⟩
    · exact if_neg (Bool.eq_false_iff.1 hsound)
    · exact if_pos (Bool.of_not_eq_false hunsound)

/-- A backend that has an option for one query and fails on any other. -/
def sampleBackend (query : String) : Except CallFailure (Envelope SelectOption) :=
  if query = "b" then sampleResponse "r" else sampleFailure

/-- A session in the error state, after a search of the host's own. -/
def failedSession : Session SelectOption :=
  (start sampleProfile).run [.search "a", .finish (sampleBackend "a")]

/-- A response with one transition, and one with an error. -/
def recordedResponses : Files := fun path =>
  if path = "close" then some
      "\x7b\"data\":[\x7b\"id\":\"3\",\"name\":\"Close\",\"to\":\x7b\"name\":\"Done\"\x7d\x7d]\x7d"
  else if path = "down" then some "\x7b\"error\":\x7b\"message\":\"down\"\x7d\x7d"
  else none

theorem search_after_failure_agrees :
    let steps : List (Step SelectOption) := [.wait 400, .wake 1, .answer 1 (sampleBackend "b")]
    let waited := (failedSession.step (.input "b")).run steps
    let direct := failedSession.searchNow sampleBackend "b"
    let command (path query : String) :=
      ((CommandLine.Command.options .transition path query).find recordedResponses .standard).2
    failedSession.selector.hasError = true ∧ failedSession.Idle ∧
      (failedSession.step (.input "b")).Unattended sampleBackend steps ∧
      waited.nextUpdate.1.selector.options = direct.2 ∧
      waited.nextUpdate.1.errorChannel = direct.1.errorChannel ∧
      direct.2 = [.raw "r"] ∧ direct.1.errorChannel.told = [true, false] ∧
      command "close" "Close → Done" =
        .ok { value := CommandLine.optionList [⟨"3", "Close → Done", none⟩] } ∧
      command "down" "" = .error .rejected := by
  intro steps waited direct command
  obtain ⟨hsession, hcommand⟩ := debounced_search_agrees
  have hidle : failedSession.Idle := ⟨by decide, by rfl, by rfl⟩
  have hsteps : (failedSession.step (.input "b")).Unattended sampleBackend steps := by
    refine ⟨trivial, trivial, fun task htask => ?_, trivial⟩
    obtain rfl : (⟨.search, 1, "b", .awaiting⟩ : Task) = task := Option.some.inj htask
    rfl
  obtain ⟨hupdate, -⟩ := hsession sampleBackend failedSession "b" steps hidle hsteps
  have happlied : waited.nextUpdate.2 = .applied .search := by decide
  have hwaiting : waited.nextUpdate ≠ (waited, .waiting) := by
    intro hwaiting
    rw [hwaiting] at happlied
    cases happlied
  obtain ⟨-, hoptions, herror⟩ := hupdate.resolve_left hwaiting
  refine ⟨by decide, hidle, hsteps, hoptions, herror, by decide, by decide, ?_, ?_⟩
  · let payload : Json := .object [("data", .array [.object [("id", .text "3"),
      ("name", .text "Close"), ("to", .object [("name", .text "Done")])]])]
    have htext : Json.ofText ((recordedResponses "close").getD "") = .ok payload := by
      unfold Json.ofText
      simp only [recordedResponses, if_true, Option.getD_some, String.reduceToList]
      rfl
    have hread : (Envelope.codec Transition.codec).ofJson payload =
        .ok ⟨some [⟨"3", "Close", "Done"⟩], none⟩ := by decide +kernel
    obtain ⟨hfound, -⟩ := hcommand recordedResponses .standard .transition "close" "Close → Done" _
      payload rfl htext
    exact hfound ⟨_, hread, rfl⟩
  · let payload : Json := .object [("error", .object [("message", .text "down")])]
    have htext : Json.ofText ((recordedResponses "down").getD "") = .ok payload := by
      unfold Json.ofText
      simp only [recordedResponses, String.reduceEq, if_true, if_false, Option.getD_some,
        String.reduceToList]
      rfl
    have hread : (Envelope.codec Transition.codec).ofJson payload =
        .ok ⟨none, some ⟨"down"⟩⟩ := by decide +kernel
    obtain ⟨-, hrejected⟩ := hcommand recordedResponses .standard .transition "down" "" _
      payload rfl htext
    refine hrejected ?_
    rintro ⟨envelope, henvelope, hnone⟩
    cases hread.symm.trans henvelope
    cases hnone

end Session

end IssueDesk
