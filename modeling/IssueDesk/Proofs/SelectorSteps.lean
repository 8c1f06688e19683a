import IssueDesk.Proofs.SelectorFrame

/-! All that a step can come to (`Effect`). A step either leaves every request alone, or does one
thing to the requests under way: one is started, outcomes are taken out of the channel, one task
goes on to its next stage or ends, or the selector is unmounted and the channel with it. What is
shown of runs elsewhere follows from these cases. Only the error state and what the labels are for,
which are left open here, are followed through a step again. -/

namespace IssueDesk

namespace Selector

/-- Two selectors agree in all but what concerns the selection and the error state. -/
structure SameSearch (selector selector' : Selector) : Prop where
  query : selector'.query = selector.query
  options : selector'.options = selector.options
  loading : selector'.loading = selector.loading
  lastRequest : selector'.lastRequest = selector.lastRequest
  latest : ∀ kind, selector'.latest kind = selector.latest kind
  mounted : selector'.mounted = selector.mounted

theorem SameSearch.refl (selector : Selector) : SameSearch selector selector :=
  ⟨rfl, rfl, rfl, rfl, fun _ => rfl, rfl⟩

theorem SameSearch.of_eq {selector selector' : Selector} (h : selector' = selector) :
    SameSearch selector selector' :=
  h ▸ SameSearch.refl selector

theorem untilAccepted_append (selector : Selector) (outcomes : List Outcome) :
    ∃ rest, outcomes = selector.untilAccepted outcomes ++ rest := by
  induction outcomes with
  | nil => exact ⟨[], rfl⟩
  | cons outcome rest ih =>
      by_cases h : selector.accepts outcome = true
      · exact ⟨rest, by simp [untilAccepted, h]⟩
      · obtain ⟨later, hlater⟩ := ih
        refine ⟨later, ?_⟩
        simp only [untilAccepted, h, Bool.false_eq_true, if_false, List.cons_append]
        rw [← hlater]

end Selector

/-- A task waits for a place in the channel. -/
def Task.isBlocked (task : Task) : Bool := task.stage matches .blocked _

/-- A task has a place in the channel and has not filled it. -/
def Task.isGranted (task : Task) : Bool := task.stage matches .granted _

namespace Session

/-- The outcomes that a step takes out of the channel. -/
def taken (session : Session α) : Step α → List Outcome
  | .poll => session.channel
  | .next =>
      if session.selector.mounted then session.selector.untilAccepted session.channel else []
  | _ => []

/-- Take outcomes out of the channel, first to last, without applying them. -/
def takeOut (session : Session α) : List Outcome → Session α
  | [] => session
  | outcome :: later => (session.receive outcome session.channel.tail).takeOut later

/-- A request waits for the backend. -/
def awaits (session : Session α) (id : Nat) : Bool :=
  (session.task? id).any (·.stage matches .awaiting)

/-- Labels are wanted for a selection: it is not empty and not the one last seen to. -/
def seesTo (session : Session α) (selection : Selection) : Bool :=
  let held := selection.fit session.profile.multi
  session.selector.mounted && !held.isEmpty && session.selector.labelsFor != some held

/-- The options at hand for a selection, if they have all of it. -/
def atHand (session : Session α) (selection : Selection) : Option (List SelectOption) :=
  (selection.fit session.profile.multi).values.mapM session.selector.known?

/-- A selection is looked up: the options at hand do not have all of it. -/
def startsLookup (session : Session α) (selection : Selection) : Bool :=
  session.seesTo selection && (session.atHand selection).isNone

/-- The labels that the host stores by a step: those at hand for a selection, and those of its own
search for the selection. -/
def stored? (session : Session α) : Step α → Option (List SelectOption)
  | .value selection => if session.seesTo selection then session.atHand selection else none
  | .finish response =>
      match session.direct with
      | some direct =>
          if direct.resolves && session.selector.mounted then
            some (session.profile.source.fetch direct.query response).settled
          else none
      | none => none
  | _ => none

/-- A step that finds no request to start, to take or to move. -/
def Stalls (session : Session α) : Step α → Prop
  | .input _ => session.selector.mounted = false
  | .value selection => session.startsLookup selection = false
  | .wake id => ∀ task due, session.task? id = some task → task.stage = .pending due →
      session.now < due
  | .answer id _ => session.awaits id = false
  | .poll | .next | .unmount | .wait _ => False
  | _ => True

theorem Stalls.taken {session : Session α} {action : Step α} (h : session.Stalls action) :
    session.taken action = [] := by
  cases action <;> first | rfl | exact absurd h id

theorem mem_of_task? {session : Session α} {id : Nat} {task : Task}
    (h : session.task? id = some task) : task ∈ session.tasks ∧ task.id = id :=
  ⟨List.mem_of_find?_eq_some h, by simpa using List.find?_some h⟩

/-- A place that becomes free goes to the first blocked task, if there is one. -/
theorem grant_cases (session : Session α) :
    ((∀ task ∈ session.tasks, task.isBlocked = false) ∧ session.grant = session) ∨
      ∃ task answer, session.tasks.find? Task.isBlocked = some task ∧
        task.stage = .blocked answer ∧
        session.grant = session.move task (.granted answer) := by
  unfold grant
  cases hfound : session.tasks.find? (·.stage matches .blocked _) with
  | none =>
      refine Or.inl ⟨fun task hmem => ?_, rfl⟩
      exact Bool.eq_false_iff.2 (List.find?_eq_none.1 hfound task hmem)
  | some task =>
      have hblocked : task.isBlocked = true := List.find?_some hfound
      unfold Task.isBlocked at hblocked
      cases hstage : task.stage with
      | blocked answer =>
          refine Or.inr ⟨task, answer, hfound, hstage, ?_⟩
          simp only [hstage]
          rfl
      | _ => simp [hstage] at hblocked

theorem receive_selector (session : Session α) (outcome : Outcome) (rest : List Outcome) :
    (session.receive outcome rest).selector = session.selector := by
  unfold receive
  rcases grant_cases ({ session with channel := rest }.emit (.received outcome.kind outcome.id))
    with ⟨-, h⟩ | ⟨task, answer, -, -, h⟩ <;> rw [h] <;> rfl

theorem receive_channel (session : Session α) (outcome : Outcome) (rest : List Outcome) :
    (session.receive outcome rest).channel = rest := by
  unfold receive
  rcases grant_cases ({ session with channel := rest }.emit (.received outcome.kind outcome.id))
    with ⟨-, h⟩ | ⟨task, answer, -, -, h⟩ <;> rw [h] <;> rfl

namespace SameRequests

theorem grant {session session' : Session α} (h : SameRequests session session') :
    SameRequests session.grant session'.grant := by
  unfold Session.grant
  rw [h.tasks]
  cases session.tasks.find? (·.stage matches .blocked _) with
  | none => exact h
  | some task =>
      cases hstage : task.stage with
      | blocked answer =>
          simp only [hstage]
          exact ⟨h.profile, h.now, rfl, h.channel, h.calls, h.receipts⟩
      | _ => simpa only [hstage] using h

theorem callFor {session session' : Session α} (h : SameRequests session session') (task : Task) :
    SameRequests (session.callFor task) (session'.callFor task) where
  profile := h.profile
  now := h.now
  tasks := by simp only [Session.callFor, Session.move, Session.remove, Session.spawn,
    Session.emit, h.tasks]
  channel := h.channel
  calls kind := by
    have hcalls := h.calls kind
    simp only [Session.calls, Session.callFor, Session.move, Session.remove, Session.spawn,
      Session.emit, List.filterMap_append] at hcalls ⊢
    rw [hcalls]
  receipts := by
    have hreceipts := h.receipts
    simp only [Session.receipts, Session.callFor, Session.move, Session.remove, Session.spawn,
      Session.emit, List.filterMap_append] at hreceipts ⊢
    rw [hreceipts]

theorem receive {session session' : Session α} (h : SameRequests session session')
    (outcome : Outcome) (rest : List Outcome) :
    SameRequests (session.receive outcome rest) (session'.receive outcome rest) := by
  apply SameRequests.grant
  refine ⟨h.profile, h.now, h.tasks, rfl, fun kind => ?_, ?_⟩
  · have hcalls := h.calls kind
    simpa [Session.calls, Session.emit] using hcalls
  · have hreceipts := h.receipts
    simpa [Session.receipts, Session.emit] using hreceipts

theorem takeOut {session session' : Session α} (h : SameRequests session session')
    (outcomes : List Outcome) :
    SameRequests (session.takeOut outcomes) (session'.takeOut outcomes) := by
  induction outcomes generalizing session session' with
  | nil => exact h
  | cons outcome later ih =>
      simp only [Session.takeOut, h.channel]
      exact ih (h.receive outcome _)

end SameRequests

theorem receiveAll_eq_takeOut (session : Session α) :
    session.receiveAll session.channel = session.takeOut session.channel := by
  suffices h : ∀ (outcomes : List Outcome) (session : Session α), session.channel = outcomes →
      session.receiveAll outcomes = session.takeOut outcomes from h _ session rfl
  intro outcomes
  induction outcomes with
  | nil => exact fun _ _ => rfl
  | cons outcome rest ih =>
      intro session hchannel
      simp only [receiveAll, takeOut, hchannel, List.tail_cons]
      exact ih _ (receive_channel session outcome rest)

theorem takeOut_selector (session : Session α) (outcomes : List Outcome) :
    (session.takeOut outcomes).selector = session.selector := by
  induction outcomes generalizing session with
  | nil => rfl
  | cons outcome later ih => rw [takeOut, ih, receive_selector]

theorem receive_keeps (session : Session α) (outcome : Outcome) (rest : List Outcome) :
    (session.receive outcome rest).profile = session.profile ∧
      (session.receive outcome rest).now = session.now ∧
      ∀ kind, (session.receive outcome rest).calls kind = session.calls kind := by
  have hcalls : ∀ kind, (({ session with channel := rest } : Session α).emit
      (.received outcome.kind outcome.id)).calls kind = session.calls kind := by
    intro kind
    simp [calls, emit, Event.call?]
  unfold receive
  rcases grant_cases (({ session with channel := rest } : Session α).emit
    (.received outcome.kind outcome.id)) with ⟨-, h⟩ | ⟨task, answer, -, -, h⟩ <;> rw [h]
  · exact ⟨rfl, rfl, hcalls⟩
  · exact ⟨rfl, rfl, hcalls⟩

/-- Taking outcomes out of the channel makes no call and takes no time. -/
theorem takeOut_keeps (session : Session α) (outcomes : List Outcome) :
    (session.takeOut outcomes).profile = session.profile ∧
      (session.takeOut outcomes).now = session.now ∧
      ∀ kind, (session.takeOut outcomes).calls kind = session.calls kind := by
  induction outcomes generalizing session with
  | nil => exact ⟨rfl, rfl, fun _ => rfl⟩
  | cons outcome later ih =>
      obtain ⟨hprofile, hnow, hcalls⟩ := ih (session.receive outcome session.channel.tail)
      obtain ⟨hprofile', hnow', hcalls'⟩ := receive_keeps session outcome session.channel.tail
      exact ⟨hprofile.trans hprofile', hnow.trans hnow',
        fun kind => (hcalls kind).trans (hcalls' kind)⟩

theorem poll_same (session : Session α) :
    SameRequests (session.takeOut session.channel) session.poll.1 := by
  rw [← receiveAll_eq_takeOut]
  exact SameRequests.applyAll _ _

theorem poll_selector (session : Session α) :
    session.poll.1.selector = session.channel.foldl Selector.take session.selector := by
  unfold poll
  rw [applyAll_selector, receiveAll_eq_takeOut, takeOut_selector]

theorem takeUntilCurrent_spec (outcomes : List Outcome) (session : Session α)
    (hchannel : session.channel = outcomes) :
    SameRequests (session.takeOut (session.selector.untilAccepted outcomes))
        (session.takeUntilCurrent outcomes).1 ∧
      (session.takeUntilCurrent outcomes).1.selector =
        (session.selector.untilAccepted outcomes).foldl Selector.take session.selector := by
  induction outcomes generalizing session with
  | nil => exact ⟨SameRequests.refl session, rfl⟩
  | cons outcome rest ih =>
      have hselector := apply_selector (session.receive outcome rest) outcome
      have hkind := apply_snd (session.receive outcome rest) outcome
      have hsame := SameRequests.apply (session.receive outcome rest) outcome
      rw [receive_selector] at hselector hkind
      cases haccepts : session.selector.accepts outcome with
      | true =>
          rw [haccepts, if_pos rfl] at hkind
          simp only [takeUntilCurrent, Selector.untilAccepted, hkind, haccepts, if_true, takeOut,
            hchannel, List.tail_cons, List.foldl_cons, List.foldl_nil]
          exact ⟨hsame, hselector⟩
      | false =>
          rw [haccepts, if_neg Bool.false_ne_true] at hkind
          rw [Selector.take_of_not_accepts haccepts] at hselector
          obtain ⟨hlater, hfinal⟩ := ih ((session.receive outcome rest).apply outcome).1
            (by rw [hsame.channel, receive_channel])
          rw [hselector] at hlater hfinal
          simp only [takeUntilCurrent, Selector.untilAccepted, hkind, haccepts, if_false, takeOut,
            hchannel, List.tail_cons, List.foldl_cons, Bool.false_eq_true,
            Selector.take_of_not_accepts haccepts]
          exact ⟨(hsame.takeOut _).trans hlater, hfinal⟩

theorem next_same (session : Session α) (hmounted : session.selector.mounted = true) :
    SameRequests (session.takeOut (session.selector.untilAccepted session.channel))
        session.nextUpdate.1 ∧
      session.nextUpdate.1.selector =
        (session.selector.untilAccepted session.channel).foldl Selector.take session.selector := by
  unfold nextUpdate
  simp only [hmounted, Bool.not_true, Bool.false_eq_true, if_false]
  exact takeUntilCurrent_spec session.channel session rfl

theorem inputChanged_of_mounted (session : Session α) (query : String)
    (hmounted : session.selector.mounted = true) :
    let id := session.selector.lastRequest + 1
    SameRequests
        (session.spawn ⟨.search, id, query, .pending (session.now + session.profile.debounce)⟩)
        (session.inputChanged query) ∧
      (session.inputChanged query).selector =
        { session.selector with
          query, hasError := false, loading := true, lastRequest := id, latestSearch := id } := by
  have hreport := (SameRequests.update session ({ · with query })).trans
    (SameRequests.reportError _ false)
  have hselector := reportError_selector (session.update ({ · with query })) false
  have hunfold : session.inputChanged query =
      let reported := (session.update ({ · with query })).reportError false
      let id := reported.selector.lastRequest + 1
      (reported.update
        ({ · with loading := true, lastRequest := id, latestSearch := id })).spawn
          ⟨.search, id, query, .pending (reported.now + reported.profile.debounce)⟩ := by
    simp only [inputChanged, hmounted, Bool.not_true, Bool.false_eq_true, if_false]
    rfl
  generalize (session.update ({ · with query })).reportError false = reported at *
  dsimp only at hunfold ⊢
  rw [hunfold, hreport.now, hreport.profile, hselector]
  refine ⟨(hreport.trans (SameRequests.update reported _)).spawn _, ?_⟩
  simp only [spawn, update, hselector]

theorem hold_selector (session : Session α) (selection : Selection) :
    (session.hold selection).selector =
      { session.selector with selection := selection.fit session.profile.multi } := by
  unfold hold
  dsimp only
  split <;> rfl

/-- A selection is seen to when the guards of `setValue` let it through. -/
theorem seesTo_eq (session : Session α) (selection : Selection) :
    session.seesTo selection = !(!(session.hold selection).selector.mounted ||
      (session.hold selection).selector.selection.isEmpty ||
      (session.hold selection).selector.labelsFor ==
        some (session.hold selection).selector.selection) := by
  rw [hold_selector]
  simp [seesTo, bne]

/-- A selection that is not looked up changes at most the labels. -/
theorem setValue_of_not_startsLookup (session : Session α) (selection : Selection)
    (h : session.startsLookup selection = false) :
    SameRequests session (session.setValue selection) ∧
      Selector.SameSearch session.selector (session.setValue selection).selector ∧
      (session.setValue selection).selector.labels =
        (session.stored? (.value selection)).getD session.selector.labels := by
  have hhold := SameRequests.hold session selection
  have hselector := hold_selector session selection
  have hsearch : Selector.SameSearch session.selector (session.hold selection).selector := by
    rw [hselector]
    exact ⟨rfl, rfl, rfl, rfl, fun kind => by cases kind <;> rfl, rfl⟩
  have hknown : (session.hold selection).selector.selection.values.mapM
      (session.hold selection).selector.known? = session.atHand selection := by
    rw [hselector]
    rfl
  have hseen := seesTo_eq session selection
  unfold setValue
  dsimp only
  split
  next hclosed =>
    rw [hclosed] at hseen
    refine ⟨hhold, hsearch, ?_⟩
    simp [hselector, stored?, hseen]
  next hopen =>
    rw [Bool.eq_false_iff.2 hopen] at hseen
    rw [hknown]
    cases hlabels : session.atHand selection with
    | some labels =>
        dsimp only
        refine ⟨(hhold.trans (SameRequests.update _ _)).trans (SameRequests.update _ _), ?_, ?_⟩
        · exact ⟨hsearch.query, hsearch.options, hsearch.loading, hsearch.lastRequest,
            fun kind => (by cases kind <;> rfl : _ = _).trans (hsearch.latest kind),
            hsearch.mounted⟩
        · simp [stored?, hseen, hlabels, update]
    | none =>
        rw [startsLookup, hseen, hlabels] at h
        cases h

theorem setValue_of_startsLookup (session : Session α) (selection : Selection)
    (h : session.startsLookup selection = true) :
    let id := session.selector.lastRequest + 1
    let held := selection.fit session.profile.multi
    SameRequests (session.spawn ⟨.lookup, id, "", .pending session.now⟩)
        (session.setValue selection) ∧
      (session.setValue selection).selector =
        { session.selector with
          selection := held, labelsFor := some held, lastRequest := id, latestLookup := id } := by
  have hhold := SameRequests.hold session selection
  have hselector := hold_selector session selection
  simp only [startsLookup, seesTo, atHand, Bool.and_eq_true, Bool.not_eq_true', bne_iff_ne, ne_eq,
    Option.isNone_iff_eq_none] at h
  obtain ⟨⟨⟨hmounted, hempty⟩, hseen⟩, hknown⟩ := h
  have hunfold : session.setValue selection =
      let held := session.hold selection
      let id := held.selector.lastRequest + 1
      (held.update ({ · with
        labelsFor := some held.selector.selection, lastRequest := id, latestLookup := id })).spawn
          ⟨.lookup, id, "", .pending held.now⟩ := by
    unfold setValue
    have hvalues : (session.hold selection).selector.selection.values.mapM
        (session.hold selection).selector.known? = none := by
      rw [hselector]
      exact hknown
    simp only [hvalues]
    simp [hselector, hmounted, hempty, hseen, issueId, update]
  generalize session.hold selection = held at *
  dsimp only at hunfold ⊢
  rw [hunfold, hhold.now, hselector]
  refine ⟨(hhold.trans (SameRequests.update held _)).spawn _, ?_⟩
  simp only [spawn, update, hselector]

/-- The session without the requests that do not survive an unmount. -/
def closed (session : Session α) : Session α :=
  { session with channel := [], tasks := session.tasks.filter Task.survivesUnmount }

theorem unmount_same (session : Session α) : SameRequests session.closed session.unmount := by
  have hclosed := SameRequests.update session.closed fun selector =>
    { selector with
      mounted := false
      loading := false
      lastRequest := session.selector.lastRequest + 1
      latestSearch := session.selector.lastRequest + 1 }
  exact hclosed.trans (SameRequests.log _ .debug "unmounted" [])

/-- What a step comes to. The remarks of the journal and the host's own search are left open. -/
inductive Effect (session : Session α) : Step α → Session α → Prop
  | aside {action : Step α} {session' : Session α} (hstalls : session.Stalls action)
      (hsame : SameRequests session session')
      (hselector : Selector.SameSearch session.selector session'.selector)
      (hlabels : session'.selector.labels =
        (session.stored? action).getD session.selector.labels) :
      Effect session action session'
  | typed {query : String} {session' : Session α} (hmounted : session.selector.mounted = true)
      (hsame : SameRequests
        (session.spawn ⟨.search, session.selector.lastRequest + 1, query,
          .pending (session.now + session.profile.debounce)⟩) session')
      (hselector : session'.selector =
        { session.selector with
          query
          hasError := false
          loading := true
          lastRequest := session.selector.lastRequest + 1
          latestSearch := session.selector.lastRequest + 1 }) :
      Effect session (.input query) session'
  | asked {selection : Selection} {session' : Session α}
      (hstarts : session.startsLookup selection = true)
      (hsame : SameRequests
        (session.spawn ⟨.lookup, session.selector.lastRequest + 1, "", .pending session.now⟩)
        session')
      (hselector : session'.selector =
        { session.selector with
          selection := selection.fit session.profile.multi
          labelsFor := some (selection.fit session.profile.multi)
          lastRequest := session.selector.lastRequest + 1
          latestLookup := session.selector.lastRequest + 1 }) :
      Effect session (.value selection) session'
  | took {action : Step α} {session' : Session α} (hrest : ∃ rest,
        session.channel = session.taken action ++ rest)
      (haction : action = .poll ∨ action = .next)
      (hsame : SameRequests (session.takeOut (session.taken action)) session')
      (hselector : session'.selector =
        (session.taken action).foldl Selector.take session.selector) :
      Effect session action session'
  | unmounted {session' : Session α} (hsame : SameRequests session.closed session')
      (hselector : session'.selector =
        { session.selector with
          mounted := false
          loading := false
          lastRequest := session.selector.lastRequest + 1
          latestSearch := session.selector.lastRequest + 1 }) :
      Effect session .unmount session'
  | called {id : Nat} {task : Task} {due : Nat} {session' : Session α}
      (htask : session.task? id = some task) (hstage : task.stage = .pending due)
      (hdue : due ≤ session.now)
      (hlatest : task.kind = .search → session.selector.latestSearch = id)
      (hsame : SameRequests (session.callFor task) session')
      (hselector : session'.selector = session.selector) :
      Effect session (.wake id) session'
  | superseded {id : Nat} {task : Task} {due : Nat} (htask : session.task? id = some task)
      (hstage : task.stage = .pending due) (hdue : due ≤ session.now) (hkind : task.kind = .search)
      (hlatest : session.selector.latestSearch ≠ id) :
      Effect session (.wake id) (session.remove id)
  | sent {id : Nat} {task : Task} {response : Except CallFailure (Envelope α)}
      (htask : session.task? id = some task) (hstage : task.stage = .awaiting)
      (hmounted : session.selector.mounted = true) (hplaces : 0 < session.freePlaces) :
      Effect session (.answer id response) ((session.remove id).enqueue
        ⟨task.kind, id, session.profile.source.fetch task.query response⟩)
  | blocked {id : Nat} {task : Task} {response : Except CallFailure (Envelope α)}
      (htask : session.task? id = some task) (hstage : task.stage = .awaiting)
      (hmounted : session.selector.mounted = true) (hplaces : session.freePlaces = 0) :
      Effect session (.answer id response)
        (session.move task (.blocked (session.profile.source.fetch task.query response)))
  | lost {id : Nat} {task : Task} {response : Except CallFailure (Envelope α)}
      (htask : session.task? id = some task) (hstage : task.stage = .awaiting)
      (hmounted : session.selector.mounted = false) :
      Effect session (.answer id response) (session.remove id)
  | filled {id : Nat} {task : Task} {answer : Answer} (htask : session.task? id = some task)
      (hstage : task.stage = .granted answer) :
      Effect session (.send id) ((session.remove id).enqueue ⟨task.kind, id, answer⟩)
  | waited (ms : Nat) : Effect session (.wait ms) (session.wait ms)

theorem wake_effect (session : Session α) (id : Nat) :
    Effect session (.wake id) (session.wake id) := by
  unfold wake
  cases htask : session.task? id with
  | none =>
      refine .aside ?_ (SameRequests.refl session) (Selector.SameSearch.refl _) rfl
      intro task due hfound
      rw [htask] at hfound
      cases hfound
  | some task =>
      cases hstage : task.stage with
      | pending due =>
          simp only [hstage]
          split
          next hearly =>
            refine .aside ?_ (SameRequests.refl session) (Selector.SameSearch.refl _) rfl
            intro task' due' hfound hstage'
            rw [htask] at hfound
            cases hfound
            rw [hstage] at hstage'
            cases hstage'
            exact hearly
          next hdue =>
            have hdue : due ≤ session.now := Nat.le_of_not_lt hdue
            cases hkind : task.kind with
            | search =>
                dsimp only
                split
                next hlatest =>
                  exact .called htask hstage hdue (fun _ => hlatest)
                    ((SameRequests.log session _ _ _).callFor task) rfl
                next hlatest => exact .superseded htask hstage hdue hkind hlatest
            | lookup =>
                refine .called htask hstage hdue (fun h => ?_)
                  ((SameRequests.log session _ _ _).callFor task) rfl
                rw [hkind] at h
                cases h
      | _ =>
          simp only [hstage]
          refine .aside ?_ (SameRequests.refl session) (Selector.SameSearch.refl _) rfl
          intro task' due' hfound hstage'
          rw [htask] at hfound
          cases hfound
          rw [hstage] at hstage'
          cases hstage'

theorem awaits_iff {session : Session α} {id : Nat} :
    session.awaits id = true ↔ ∃ task, session.task? id = some task ∧ task.stage = .awaiting := by
  unfold awaits
  cases session.task? id with
  | none => simp
  | some task =>
      cases hstage : task.stage <;> simp [hstage]

theorem answer_effect (session : Session α) (id : Nat)
    (response : Except CallFailure (Envelope α)) :
    Effect session (.answer id response) (session.answer id response) := by
  cases hawaits : session.awaits id with
  | true =>
      obtain ⟨task, htask, hstage⟩ := awaits_iff.1 hawaits
      simp only [answer, htask, hstage]
      split
      next hclosed => exact .lost htask hstage (by simpa using hclosed)
      next hmounted =>
        have hmounted : session.selector.mounted = true := by simpa using hmounted
        split
        next hplaces => exact .sent htask hstage hmounted hplaces
        next hplaces => exact .blocked htask hstage hmounted (by omega)
  | false =>
      have hunfold : session.answer id response = session := by
        unfold answer
        cases htask : session.task? id with
        | none => rfl
        | some task =>
            cases hstage : task.stage with
            | awaiting =>
                rw [awaits_iff.2 ⟨task, htask, hstage⟩] at hawaits
                cases hawaits
            | _ => simp only [hstage]
      rw [hunfold]
      exact .aside hawaits (SameRequests.refl session) (Selector.SameSearch.refl _) rfl

theorem send_effect (session : Session α) (id : Nat) :
    Effect session (.send id) (session.send id) := by
  have hidle : Effect session (.send id) session :=
    .aside trivial (SameRequests.refl session) (Selector.SameSearch.refl _) rfl
  unfold send
  cases htask : session.task? id with
  | none => exact hidle
  | some task =>
      cases hstage : task.stage with
      | granted answer =>
          simp only [hstage]
          exact .filled htask hstage
      | _ => simpa only [hstage] using hidle

theorem finishDirect_selector (session : Session α) (response : Except CallFailure (Envelope α)) :
    Selector.SameSearch session.selector (session.finishDirect response).1.selector ∧
      (session.finishDirect response).1.selector.labels =
        (session.stored? (.finish response)).getD session.selector.labels := by
  unfold finishDirect
  cases hdirect : session.direct with
  | none => exact ⟨Selector.SameSearch.refl _, by simp [stored?, hdirect]⟩
  | some direct =>
      have hsettle := settle_selector { session with direct := none } direct.query
        (session.profile.source.fetch direct.query response)
      have hsettled := settle_snd { session with direct := none } direct.query
        (session.profile.source.fetch direct.query response)
      have hmounted : ({ session with direct := none }.settle direct.query
          (session.profile.source.fetch direct.query response)).1.selector.mounted =
            session.selector.mounted := by rw [hsettle]
      dsimp only at hsettle hsettled hmounted ⊢
      rw [hmounted]
      split
      next hresolves =>
        dsimp only [update]
        rw [hsettle, hsettled]
        refine ⟨⟨rfl, rfl, rfl, rfl, fun kind => by cases kind <;> rfl, rfl⟩, ?_⟩
        simp [stored?, hdirect, hresolves]
      next hresolves =>
        dsimp only
        rw [hsettle]
        refine ⟨⟨rfl, rfl, rfl, rfl, fun kind => by cases kind <;> rfl, rfl⟩, ?_⟩
        simp [stored?, hdirect, hresolves]

theorem step_effect (session : Session α) (action : Step α) :
    Effect session action (session.step action) := by
  have habandon := SameRequests.abandon session
  cases action with
  | input query =>
      cases hmounted : session.selector.mounted with
      | true =>
          obtain ⟨hsame, hselector⟩ := inputChanged_of_mounted session.abandon query hmounted
          exact .typed hmounted ((habandon.spawn _).trans hsame) hselector
      | false =>
          have hunfold : session.step (.input query) = session.abandon := by
            simp [step, inputChanged, abandon, hmounted]
          rw [hunfold]
          exact .aside hmounted habandon (Selector.SameSearch.refl _) rfl
  | value selection =>
      cases hstarts : session.startsLookup selection with
      | true =>
          obtain ⟨hsame, hselector⟩ := setValue_of_startsLookup session.abandon selection hstarts
          exact .asked hstarts ((habandon.spawn _).trans hsame) hselector
      | false =>
          obtain ⟨hsame, hselector, hlabels⟩ :=
            setValue_of_not_startsLookup session.abandon selection hstarts
          exact .aside hstarts (habandon.trans hsame) hselector hlabels
  | poll =>
      exact .took ⟨[], by simp [taken]⟩ (Or.inl rfl)
        ((habandon.takeOut _).trans (poll_same session.abandon)) (poll_selector session.abandon)
  | next =>
      cases hmounted : session.selector.mounted with
      | true =>
          obtain ⟨hsame, hselector⟩ := next_same session.abandon hmounted
          have htaken : session.taken .next =
              session.selector.untilAccepted session.channel := by simp [taken, hmounted]
          refine .took ?_ (Or.inr rfl) ?_ ?_ <;> rw [htaken]
          · exact Selector.untilAccepted_append _ _
          · exact (habandon.takeOut _).trans hsame
          · exact hselector
      | false =>
          have htaken : session.taken .next = [] := by simp [taken, hmounted]
          have hunfold : session.step .next = session.abandon := by
            simp [step, nextUpdate, abandon, hmounted]
          rw [hunfold]
          refine .took ⟨session.channel, ?_⟩ (Or.inr rfl) ?_ ?_ <;> rw [htaken]
          · rfl
          · exact habandon
          · rfl
  | unmount =>
      have hclosed : SameRequests session.closed session.abandon.closed :=
        ⟨rfl, rfl, rfl, rfl, fun _ => rfl, rfl⟩
      exact .unmounted (hclosed.trans (unmount_same session.abandon)) rfl
  | search query =>
      refine .aside trivial (habandon.trans (SameRequests.beginSearch _ query false)) ?_ ?_ <;>
        simp only [step, beginSearch, emit, reportError_selector]
      · exact ⟨rfl, rfl, rfl, rfl, fun kind => by cases kind <;> rfl, rfl⟩
      · rfl
  | resolve =>
      refine .aside trivial (habandon.trans (SameRequests.beginResolve _)) ?_ ?_ <;>
        simp only [step, beginResolve] <;>
        split
      · exact Selector.SameSearch.refl _
      · simp only [beginSearch, emit, reportError_selector]
        exact ⟨rfl, rfl, rfl, rfl, fun kind => by cases kind <;> rfl, rfl⟩
      · rfl
      · simp only [beginSearch, emit, reportError_selector]
        rfl
  | finish response =>
      obtain ⟨hselector, hlabels⟩ := finishDirect_selector session response
      exact .aside trivial (SameRequests.finishDirect session response) hselector hlabels
  | abandon => exact .aside trivial habandon (Selector.SameSearch.refl _) rfl
  | wake id => exact wake_effect session id
  | answer id response => exact answer_effect session id response
  | send id => exact send_effect session id
  | wait ms => exact .waited ms

theorem Effect.profile {session session' : Session α} {action : Step α}
    (h : Effect session action session') : session'.profile = session.profile := by
  cases h with
  | aside hstalls hsame hselector => exact hsame.profile
  | typed hmounted hsame hselector => exact hsame.profile
  | asked hstarts hsame hselector => exact hsame.profile
  | took hrest haction hsame hselector => exact hsame.profile.trans (takeOut_keeps _ _).1
  | unmounted hsame hselector => exact hsame.profile
  | called htask hstage hdue hlatest hsame hselector => exact hsame.profile
  | _ => rfl

theorem run_append (session : Session α) (steps later : List (Step α)) :
    session.run (steps ++ later) = (session.run steps).run later :=
  List.foldl_append

theorem run_concat (session : Session α) (steps : List (Step α)) (action : Step α) :
    session.run (steps ++ [action]) = (session.run steps).step action :=
  run_append session steps [action]

theorem run_profile (session : Session α) (steps : List (Step α)) :
    (session.run steps).profile = session.profile := by
  induction steps generalizing session with
  | nil => rfl
  | cons action later ih =>
      exact (ih (session.step action)).trans (step_effect session action).profile

end Session

end IssueDesk
