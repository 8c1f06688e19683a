import IssueDesk.Log.Record
import IssueDesk.Selector.Selection
import IssueDesk.Selector.Source

/-! A selector over a backend that answers later, together with everything that is under way for it.

A keystroke starts a search that first waits for a quiet period and gives up when a later keystroke
has come. A selection whose labels are not known starts a lookup. Either, once answered, sends its
outcome into a channel that holds sixteen; further outcomes wait, and a place that becomes free goes
to the one that has waited longest, which fills it when it next runs. The host takes outcomes out of
the channel; one that is not the latest of its kind is dropped.

All of this is a state and the steps from it. `Step` lists the steps: what the host does, what the
tasks do, and the passing of time. A step that is not possible in a state leaves it as it is. The
journal records what can be seen from outside, in order. -/

namespace IssueDesk

/-- What stays the same about a selector. `call` is the backend call for a query. -/
structure Profile (α : Type) where
  name : String
  source : Source α
  call : String → BackendCall
  debounce : Nat := 400
  multi : Bool := false

inductive RequestKind where
  | search
  | lookup
  deriving DecidableEq, Repr

/-- The part of a selector that the host sees. `labels` are the options last resolved for a
selection, and `labelsFor` is the selection for which that was last tried. Requests are numbered
without end: that a counter of sixty-four bits begins anew after `2 ^ 64` of them is left out. -/
structure Selector where
  selection : Selection := .none
  labels : List SelectOption := []
  labelsFor : Option Selection := none
  query : String := ""
  options : List SelectOption := []
  loading : Bool := false
  hasError : Bool := false
  lastRequest : Nat := 0
  latestSearch : Nat := 0
  latestLookup : Nat := 0
  mounted : Bool := true
  deriving DecidableEq, Repr

structure Outcome where
  kind : RequestKind
  id : Nat
  answer : Answer

/-- How far a task has come: it waits for its time, for the backend, for a place in the channel, or
it has been given one. -/
inductive Stage where
  | pending (due : Nat)
  | awaiting
  | blocked (answer : Answer)
  | granted (answer : Answer)

structure Task where
  kind : RequestKind
  id : Nat
  query : String
  stage : Stage

/-- A search that the host makes and waits for. One made to resolve the selection also sets the
labels. -/
structure DirectSearch where
  query : String
  resolves : Bool
  deriving DecidableEq, Repr

/-- On whose behalf the backend is called. -/
inductive Caller where
  | request (kind : RequestKind) (id : Nat)
  | host
  deriving DecidableEq, Repr

inductive Event where
  | called (caller : Caller) (query : String)
  | errorChanged (hasError : Bool)
  | received (kind : RequestKind) (id : Nat)
  | logged (record : Log.Record)
  deriving DecidableEq, Repr

/-- `tasks` stand in the order in which they last came to a new stage. -/
structure Session (α : Type) where
  profile : Profile α
  selector : Selector := {}
  now : Nat := 0
  tasks : List Task := []
  channel : List Outcome := []
  direct : Option DirectSearch := none
  journal : List Event := []

def channelCapacity : Nat := 16

namespace Selector

/-- The option known for a value, from the labels before the search results. -/
def known? (selector : Selector) (value : String) : Option SelectOption :=
  (selector.labels ++ selector.options).find? (·.value == value)

/-- The options of the selection; a value without a known option stands for itself. -/
def selectedOptions (selector : Selector) : List SelectOption :=
  selector.selection.values.map fun value => (selector.known? value).getD (.raw value)

/-- A selector that requires a value is valid only with one. -/
def isValid (selector : Selector) (required : Bool) : Bool :=
  !required || !selector.selection.isEmpty

/-- The latest request of a kind. -/
def latest (selector : Selector) : RequestKind → Nat
  | .search => selector.latestSearch
  | .lookup => selector.latestLookup

end Selector

namespace Session

def emit (session : Session α) (event : Event) : Session α :=
  { session with journal := session.journal ++ [event] }

def log (session : Session α) (level : Log.Level) (message : String)
    (fields : List (String × String)) : Session α :=
  session.emit (.logged ⟨level, message, ("selector", session.profile.name) :: fields⟩)

def update (session : Session α) (f : Selector → Selector) : Session α :=
  { session with selector := f session.selector }

/-- Enter or leave the error state. Only a change is reported. -/
def reportError (session : Session α) (hasError : Bool) : Session α :=
  if session.selector.hasError = hasError then session
  else (session.update ({ · with hasError })).emit (.errorChanged hasError)

def errorLevel : SearchError → Log.Level
  | .backend _ => .warn
  | .transport _ => .error

/-- The options that an answer gives. A failure gives none; it is logged, and raises the error state
while the selector is mounted. -/
def settle (session : Session α) (query : String) (answer : Answer) :
    Session α × List SelectOption :=
  match answer with
  | .ok options => (session, options)
  | .error error =>
      let session := session.log (errorLevel error) error.message [("query", query)]
      (if session.selector.mounted then session.reportError true else session, [])

/-- Give the next request its id. -/
def issueId (session : Session α) : Session α × Nat :=
  let id := session.selector.lastRequest + 1
  (session.update ({ · with lastRequest := id }), id)

def spawn (session : Session α) (task : Task) : Session α :=
  { session with tasks := session.tasks ++ [task] }

/-! What the host does. -/

def inputChanged (session : Session α) (query : String) : Session α :=
  if !session.selector.mounted then session
  else
    let session := (session.update ({ · with query })).reportError false
    let (session, id) := (session.update ({ · with loading := true })).issueId
    let session := session.update ({ · with latestSearch := id })
    session.spawn ⟨.search, id, query, .pending (session.now + session.profile.debounce)⟩

/-- Take over a selection as far as the selector can hold it. -/
def hold (session : Session α) (selection : Selection) : Session α :=
  let multi := session.profile.multi
  let session :=
    if selection.isCut multi then
      session.log .warn "single-value selector given several values, keeping the first"
        [("count", toString selection.values.length)]
    else session
  session.update ({ · with selection := selection.fit multi })

/-- Make the labels of the selection known: from the options at hand if they have all of them, else
by a lookup. The same selection is not looked up twice in a row. -/
def setValue (session : Session α) (selection : Selection) : Session α :=
  let session := session.hold selection
  let selector := session.selector
  if !selector.mounted || selector.selection.isEmpty ||
      selector.labelsFor == some selector.selection then session
  else
    let session := session.update ({ · with labelsFor := some selector.selection })
    match selector.selection.values.mapM selector.known? with
    | some labels => session.update ({ · with labels })
    | none =>
        let (session, id) := session.issueId
        let session := session.update ({ · with latestLookup := id })
        session.spawn ⟨.lookup, id, "", .pending session.now⟩

/-- Write the result of a current outcome. -/
def write (session : Session α) (outcome : Outcome) : Session α :=
  match outcome.kind with
  | .search =>
      let session := session.update ({ · with loading := false })
      let (session, options) := session.settle session.selector.query outcome.answer
      session.update ({ · with options })
  | .lookup =>
      let (session, labels) := session.settle "" outcome.answer
      session.update ({ · with labels })

/-- Apply an outcome; the second component is its kind if it was current. -/
def apply (session : Session α) (outcome : Outcome) : Session α × Option RequestKind :=
  let latest := session.selector.latest outcome.kind
  if !session.selector.mounted then (session, none)
  else if outcome.id = latest then (session.write outcome, some outcome.kind)
  else
    (session.log .debug "discarding stale result"
      [("request_id", toString outcome.id), ("latest", toString latest)], none)

/-- Give the place that has become free to the task that has waited longest. -/
def grant (session : Session α) : Session α :=
  match session.tasks.find? (·.stage matches .blocked _) with
  | some task =>
      match task.stage with
      | .blocked answer =>
          let others := session.tasks.filter (·.id ≠ task.id)
          { session with tasks := others ++ [{ task with stage := .granted answer }] }
      | _ => session
  | none => session

/-- Take the first outcome out of the channel. -/
def receive (session : Session α) (outcome : Outcome) (rest : List Outcome) : Session α :=
  ({ session with channel := rest }.emit (.received outcome.kind outcome.id)).grant

/-- Take all outcomes out of a channel. -/
def receiveAll (session : Session α) : List Outcome → Session α
  | [] => session
  | outcome :: rest => (session.receive outcome rest).receiveAll rest

/-- Apply outcomes in order; the second component tells whether one was current. -/
def applyAll (session : Session α) : List Outcome → Session α × Bool
  | [] => (session, false)
  | outcome :: rest =>
      let (session, kind) := session.apply outcome
      let (session, changed) := session.applyAll rest
      (session, kind.isSome || changed)

/-- Take what is in the channel and apply it, without waiting. -/
def poll (session : Session α) : Session α × Bool :=
  (session.receiveAll session.channel).applyAll session.channel

/-- What the host hears when it asks for the next update. -/
inductive Update where
  | applied (kind : RequestKind)
  | closed
  | waiting
  deriving DecidableEq, Repr

/-- Take outcomes one by one until a current one has been applied. -/
def takeUntilCurrent (session : Session α) : List Outcome → Session α × Update
  | [] => (session, .waiting)
  | outcome :: rest =>
      let (session, kind) := (session.receive outcome rest).apply outcome
      match kind with
      | some kind => (session, .applied kind)
      | none => session.takeUntilCurrent rest

def nextUpdate (session : Session α) : Session α × Update :=
  if !session.selector.mounted then (session, .closed)
  else session.takeUntilCurrent session.channel

/-- Whether a task still has its answer before it. A task that is about to send finds the channel
gone. -/
def Task.survivesUnmount (task : Task) : Bool :=
  match task.stage with
  | .pending _ | .awaiting => true
  | .blocked _ | .granted _ => false

/-- Stop taking results. A search that still waits for its time loses against the new id. -/
def unmount (session : Session α) : Session α :=
  let (session, id) := session.issueId
  let session :=
    session.update ({ · with mounted := false, loading := false, latestSearch := id })
  { session with
    channel := []
    tasks := session.tasks.filter Task.survivesUnmount }.log .debug "unmounted" []

/-- Call the backend at once, on behalf of the host. -/
def beginSearch (session : Session α) (query : String) (resolves : Bool) : Session α :=
  { (session.reportError false).emit (.called .host query) with
    direct := some { query, resolves } }

/-- Resolve the selection by a search; nothing is called when nothing is selected. -/
def beginResolve (session : Session α) : Session α :=
  if session.selector.selection.isEmpty then session else session.beginSearch "" true

/-- The options that the host's search gives. -/
def finishDirect (session : Session α) (response : Except CallFailure (Envelope α)) :
    Session α × List SelectOption :=
  match session.direct with
  | none => (session, [])
  | some direct =>
      let answer := session.profile.source.fetch direct.query response
      let (session, options) := { session with direct := none }.settle direct.query answer
      if direct.resolves && session.selector.mounted then
        (session.update fun selector =>
          { selector with labels := options, labelsFor := some selector.selection }, options)
      else (session, options)

/-- A host that does something else no longer waits for its search. -/
def abandon (session : Session α) : Session α := { session with direct := none }

/-! What the tasks do. -/

def task? (session : Session α) (id : Nat) : Option Task := session.tasks.find? (·.id == id)

def remove (session : Session α) (id : Nat) : Session α :=
  { session with tasks := session.tasks.filter (·.id ≠ id) }

/-- Let a task come to a new stage, behind the others. -/
def move (session : Session α) (task : Task) (stage : Stage) : Session α :=
  (session.remove task.id).spawn { task with stage }

/-- Places of the channel that are neither filled nor given away. -/
def freePlaces (session : Session α) : Nat :=
  channelCapacity - session.channel.length -
    session.tasks.countP (·.stage matches .granted _)

/-- Call the backend on behalf of a task. -/
def callFor (session : Session α) (task : Task) : Session α :=
  (session.emit (.called (.request task.kind task.id) task.query)).move task .awaiting

/-- A task whose time has come calls the backend, unless it is a search that has been superseded.
Such a search ends, and the remark that it does, of the trace level, is left out: the journal holds
what is logged from the debug level up. -/
def wake (session : Session α) (id : Nat) : Session α :=
  match session.task? id with
  | some task =>
      match task.stage with
      | .pending due =>
          if session.now < due then session
          else
            match task.kind with
            | .search =>
                if session.selector.latestSearch = id then
                  (session.log .debug "searching"
                    [("request_id", toString id), ("query", task.query)]).callFor task
                else session.remove id
            | .lookup =>
                (session.log .debug "resolving selected value"
                  [("request_id", toString id)]).callFor task
      | _ => session
  | none => session

def enqueue (session : Session α) (outcome : Outcome) : Session α :=
  { session with channel := session.channel ++ [outcome] }

/-- The backend answers a task, which sends the outcome if the channel has a place for it. After an
unmount there is no channel. -/
def answer (session : Session α) (id : Nat) (response : Except CallFailure (Envelope α)) :
    Session α :=
  match session.task? id with
  | some task =>
      match task.stage with
      | .awaiting =>
          let answer := session.profile.source.fetch task.query response
          if !session.selector.mounted then session.remove id
          else if 0 < session.freePlaces then
            (session.remove id).enqueue ⟨task.kind, id, answer⟩
          else session.move task (.blocked answer)
      | _ => session
  | none => session

/-- A task fills the place that it was given. -/
def send (session : Session α) (id : Nat) : Session α :=
  match session.task? id with
  | some task =>
      match task.stage with
      | .granted answer => (session.remove id).enqueue ⟨task.kind, id, answer⟩
      | _ => session
  | none => session

def wait (session : Session α) (ms : Nat) : Session α := { session with now := session.now + ms }

end Session

inductive Step (α : Type) where
  | input (query : String)
  | value (selection : Selection)
  | poll
  | next
  | unmount
  | search (query : String)
  | resolve
  | finish (response : Except CallFailure (Envelope α))
  | abandon
  | wake (id : Nat)
  | answer (id : Nat) (response : Except CallFailure (Envelope α))
  | send (id : Nat)
  | wait (ms : Nat)

namespace Session

def step (session : Session α) : Step α → Session α
  | .input query => session.abandon.inputChanged query
  | .value selection => session.abandon.setValue selection
  | .poll => session.abandon.poll.1
  | .next => session.abandon.nextUpdate.1
  | .unmount => session.abandon.unmount
  | .search query => session.abandon.beginSearch query false
  | .resolve => session.abandon.beginResolve
  | .finish response => (session.finishDirect response).1
  | .abandon => session.abandon
  | .wake id => session.wake id
  | .answer id response => session.answer id response
  | .send id => session.send id
  | .wait ms => session.wait ms

def start (profile : Profile α) : Session α := { profile }

def run (session : Session α) (steps : List (Step α)) : Session α := steps.foldl step session

/-- The states that a selector can come to. -/
inductive Reachable (profile : Profile α) : Session α → Prop where
  | start : Reachable profile (start profile)
  | step {session : Session α} (h : Reachable profile session) (action : Step α) :
      Reachable profile (session.step action)

end Session

end IssueDesk
