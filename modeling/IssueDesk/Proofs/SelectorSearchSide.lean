import IssueDesk.Proofs.SelectorCalls
import IssueDesk.Proofs.SelectorLastSearch

/-! The searches of a run, taken by themselves. What happens to the searches of a selector are
keystrokes, ends of quiet periods, answers, what the host takes, and the passing of time
(`SearchEvent`); a selector can be run on these alone. `searchSide` reads them off a run, in their
order: all that concerns a selection, a lookup or a search of the host is left out. The searches of
the run have other ids there, since only they are counted (`searchNumber`).

Every wake and every answer that the run has under the id of a search stays, whether that search has
begun, waits for it or is over. Only an answer that waits for a place in the channel comes later,
when it gets the place; and where the host waits for an update, which may be one of a lookup, it
receives the outcomes of searches that it has taken then. -/

namespace IssueDesk

/-- What happens to the searches of a selector. -/
inductive SearchEvent (α : Type) where
  | input (query : String)
  | wake (id : Nat)
  | answer (id : Nat) (response : Except CallFailure (Envelope α))
  | poll
  | receive
  | wait (ms : Nat)

def RequestKind.isSearch : RequestKind → Bool
  | .search => true
  | .lookup => false

@[simp] theorem RequestKind.isSearch_search : RequestKind.search.isSearch = true := rfl

@[simp] theorem RequestKind.isSearch_lookup : RequestKind.lookup.isSearch = false := rfl

namespace Session

/-- Take the next outcome out of the channel and apply it. -/
def receiveNext (session : Session α) : Session α :=
  match session.channel with
  | [] => session
  | outcome :: rest => ((session.receive outcome rest).apply outcome).1

def react (session : Session α) : SearchEvent α → Session α
  | .input query => session.step (.input query)
  | .wake id => session.step (.wake id)
  | .answer id response => session.step (.answer id response)
  | .poll => session.step .poll
  | .receive => session.receiveNext
  | .wait ms => session.step (.wait ms)

def reactAll (session : Session α) (events : List (SearchEvent α)) : Session α :=
  events.foldl react session

/-- The id of the search that a step starts. -/
def startsSearch? (session : Session α) : Step α → Option Nat
  | .input _ => if session.selector.mounted then some (session.selector.lastRequest + 1) else none
  | _ => none

/-- The ids of the searches of a run, in order. -/
def searchIds (session : Session α) (steps : List (Step α)) : List Nat :=
  session.gathered (fun before action => (before.startsSearch? action).toList) steps

/-- Searches are numbered from one, in their order; zero stands for none. -/
def searchNumber (ids : List Nat) (id : Nat) : Nat := (0 :: ids).idxOf id

/-- A request has its answer and has not put its outcome into the channel. -/
def holdsAnswer (session : Session α) (id : Nat) : Bool :=
  (session.task? id).any fun task => task.isBlocked || task.isGranted

/-- What a step is for the searches, which have the ids and the responses that are given. -/
def searchEvents (ids : List Nat) (responses : Nat → List (Except CallFailure (Envelope α)))
    (session : Session α) : Step α → List (SearchEvent α)
  | .input query => [.input query]
  | .wake id => if id ∈ ids then [.wake (searchNumber ids id)] else []
  | .answer id response =>
      if id ∈ ids ∧ (session.answer id response).holdsAnswer id = false then
        [.answer (searchNumber ids id) response]
      else []
  | .send id =>
      if id ∈ ids ∧ (session.task? id).any Task.isGranted = true then
        (responses id).map (.answer (searchNumber ids id))
      else []
  | .poll => [.poll]
  | .next => List.replicate ((session.taken .next).countP (·.kind.isSearch)) .receive
  | .wait ms => [.wait ms]
  | _ => []

/-- What happens to the searches in a run from the start. -/
def searchSide (profile : Profile α) (steps : List (Step α)) : List (SearchEvent α) :=
  let session := start profile
  session.gathered (searchEvents (session.searchIds steps) (session.responses · steps)) steps

@[simp] theorem reactAll_nil (session : Session α) : session.reactAll [] = session := rfl

theorem reactAll_append (session : Session α) (events later : List (SearchEvent α)) :
    session.reactAll (events ++ later) = (session.reactAll events).reactAll later :=
  List.foldl_append

/-- Outcomes that are received one by one are taken out of the channel and applied in order. -/
theorem receives_spec {outcomes rest : List Outcome} {session : Session α}
    (hchannel : session.channel = outcomes ++ rest) :
    let session' := session.reactAll (List.replicate outcomes.length .receive)
    SameRequests (session.takeOut outcomes) session' ∧
      session'.selector = outcomes.foldl Selector.take session.selector := by
  induction outcomes generalizing session with
  | nil => exact ⟨SameRequests.refl session, rfl⟩
  | cons outcome later ih =>
      have hreact : session.react .receive =
          ((session.receive outcome (later ++ rest)).apply outcome).1 := by
        rw [react, receiveNext, hchannel]
        rfl
      have hsame := SameRequests.apply (session.receive outcome (later ++ rest)) outcome
      have hselector := apply_selector (session.receive outcome (later ++ rest)) outcome
      rw [← hreact] at hsame hselector
      rw [receive_selector] at hselector
      obtain ⟨hlater, hfinal⟩ := ih (hsame.channel.trans (receive_channel session outcome _))
      rw [takeOut, hchannel, List.cons_append, List.tail_cons, List.foldl_cons, ← hselector]
      exact ⟨(hsame.takeOut later).trans hlater, hfinal⟩

/-- A keystroke starts a search under the next id, which becomes the latest. -/
theorem step_input {session : Session α} (hmounted : session.selector.mounted = true)
    (query : String) :
    SameRequests
        (session.spawn ⟨.search, session.selector.lastRequest + 1, query,
          .pending (session.now + session.profile.debounce)⟩) (session.step (.input query)) ∧
      (session.step (.input query)).selector =
        { session.selector with
          query
          hasError := false
          loading := true
          lastRequest := session.selector.lastRequest + 1
          latestSearch := session.selector.lastRequest + 1 } := by
  obtain ⟨hsame, hselector⟩ := inputChanged_of_mounted session.abandon query hmounted
  exact ⟨((SameRequests.abandon session).spawn _).trans hsame, hselector⟩

/-- The latest search calls the backend when its quiet period is over. -/
theorem wake_of_latest {session : Session α} {task : Task} {due : Nat}
    (htask : session.task? task.id = some task) (hstage : task.stage = .pending due)
    (hdue : due ≤ session.now) (hkind : task.kind = .search)
    (hlatest : session.selector.latestSearch = task.id) :
    SameRequests (session.callFor task) (session.wake task.id) ∧
      (session.wake task.id).selector = session.selector := by
  have hwake : session.wake task.id = (session.log .debug "searching"
      [("request_id", toString task.id), ("query", task.query)]).callFor task := by
    simp [wake, htask, hstage, Nat.not_lt.2 hdue, hkind, hlatest]
  rw [hwake]
  exact ⟨(SameRequests.log session _ _ _).callFor task, rfl⟩

/-! The ids of the searches and their numbers. -/

@[simp] theorem searchNumber_zero (ids : List Nat) : searchNumber ids 0 = 0 :=
  List.idxOf_cons_self

theorem searchNumber_inj {ids : List Nat} {id other : Nat} (h : id ∈ 0 :: ids) :
    searchNumber ids id = searchNumber ids other ↔ id = other :=
  List.idxOf_inj h

/-- A search has as its number how many there are up to it. -/
theorem searchNumber_append_cons {before : List Nat} {id : Nat} (h : id ∉ 0 :: before)
    (after : List Nat) : searchNumber (before ++ id :: after) id = before.length + 1 := by
  rw [searchNumber, ← List.cons_append, List.idxOf_append_of_notMem h]
  simp

theorem searchIds_concat (session : Session α) (steps : List (Step α)) (action : Step α) :
    session.searchIds (steps ++ [action]) =
      session.searchIds steps ++ ((session.run steps).startsSearch? action).toList :=
  session.gathered_concat _ steps action

theorem searchIds_append (session : Session α) (steps later : List (Step α)) :
    session.searchIds (steps ++ later) =
      session.searchIds steps ++ (session.run steps).searchIds later :=
  session.gathered_append _ steps later

theorem startsSearch?_eq_some {session : Session α} {action : Step α} {id : Nat}
    (h : session.startsSearch? action = some id) :
    ∃ query, action = .input query ∧ session.selector.mounted = true ∧
      id = session.selector.lastRequest + 1 := by
  cases action with
  | input query =>
      rw [startsSearch?] at h
      split at h
      next hmounted => exact ⟨query, rfl, hmounted, (Option.some.inj h).symm⟩
      next => cases h
  | _ => cases h

theorem exists_input_of_mem_searchIds {session : Session α} {id : Nat} {steps : List (Step α)}
    (h : id ∈ session.searchIds steps) :
    ∃ before query after, steps = before ++ .input query :: after ∧
      (session.run before).selector.mounted = true ∧
      id = (session.run before).selector.lastRequest + 1 := by
  induction steps generalizing session with
  | nil => cases h
  | cons action later ih =>
      rcases List.mem_append.1 h with hstarts | hlater
      · obtain ⟨query, rfl, hmounted, rfl⟩ := startsSearch?_eq_some (Option.mem_toList.1 hstarts)
        exact ⟨[], query, later, rfl, hmounted, rfl⟩
      · obtain ⟨before, query, after, rfl, hmounted, hid⟩ := ih hlater
        exact ⟨action :: before, query, after, rfl, hmounted, hid⟩

/-- The ids of the searches are those under which a search has been asked for. -/
theorem mem_searchIds_iff (profile : Profile α) {steps : List (Step α)} {id : Nat} :
    id ∈ (start profile).searchIds steps ↔
      ∃ query, (start profile).asked id steps = some (.search, query) := by
  constructor
  · intro h
    obtain ⟨before, query, after, rfl, hmounted, rfl⟩ := exists_input_of_mem_searchIds h
    exact ⟨query, asked_input profile before after query hmounted⟩
  · rintro ⟨query, hasked⟩
    obtain ⟨before, after, rfl, hmounted, rfl⟩ := exists_input_of_asked hasked
    rw [searchIds_append]
    refine List.mem_append_right _ (List.mem_append_left _ ?_)
    simp [startsSearch?, hmounted]

/-- The search of a keystroke has the next number. -/
theorem searchNumber_input (profile : Profile α) (before later : List (Step α)) (query : String)
    (hmounted : ((start profile).run before).selector.mounted = true) :
    let id := ((start profile).run before).selector.lastRequest + 1
    let ids := (start profile).searchIds (before ++ .input query :: later)
    id ∈ ids ∧ searchNumber ids id = ((start profile).searchIds before).length + 1 := by
  intro id ids
  have hsplit : ids = (start profile).searchIds before ++
      id :: (((start profile).run before).step (.input query)).searchIds later := by
    show (start profile).searchIds (before ++ .input query :: later) = _
    rw [searchIds_append]
    simp [searchIds, gathered, startsSearch?, hmounted, id]
  have hfresh : id ∉ 0 :: (start profile).searchIds before := by
    rw [List.mem_cons, not_or]
    refine ⟨Nat.succ_ne_zero _, fun hmem => ?_⟩
    obtain ⟨text, hasked⟩ := (mem_searchIds_iff profile).1 hmem
    rw [((Traced.run profile id before).fresh (Nat.lt_succ_self _)).1] at hasked
    cases hasked
  rw [hsplit]
  exact ⟨List.mem_append_right _ List.mem_cons_self, searchNumber_append_cons hfresh _⟩

/-- Of what is under way, these are the ids of the searches. -/
structure Known (ids : List Nat) (session : Session α) : Prop where
  task : ∀ id task, session.task? id = some task → (id ∈ ids ↔ task.kind = .search)
  outcome : ∀ outcome ∈ session.channel, outcome.id ∈ ids ↔ outcome.kind = .search

/-- What is under way in a run stays known, whatever comes later. -/
theorem Known.run (profile : Profile α) (steps later : List (Step α)) :
    Known ((start profile).searchIds (steps ++ later)) ((start profile).run steps) := by
  have hknown : ∀ id kind query, (start profile).asked id steps = some (kind, query) →
      (id ∈ (start profile).searchIds (steps ++ later) ↔ kind = .search) := by
    intro id kind query hasked
    rw [mem_searchIds_iff, asked_append, hasked, Option.some_or]
    simp
  refine ⟨fun id task htask => ?_, fun outcome hmem => ?_⟩
  · obtain ⟨hasked, -⟩ := (Traced.run profile id steps).task task htask
    exact hknown id task.kind task.query hasked
  · obtain ⟨query, response, hasked, -⟩ :=
      (Traced.run profile outcome.id steps).outcome outcome hmem rfl
    exact hknown outcome.id outcome.kind query hasked

end Session

end IssueDesk
