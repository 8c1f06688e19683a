import IssueDesk.Backend.Script
import IssueDesk.Selector.Session
import IssueDesk.Tracker.Envelope

/-! A selector played against a scripted backend on a clock that moves only when nothing is left to
do. The rehearsal chooses the steps of the session: a task runs as far as it can, the task that came
first to its stage runs first, and when all tasks wait the clock moves to the next time at which one
of them goes on. What the host waits for is given up after a minute. -/

namespace IssueDesk

open Wire

/-- An answer that is under way to a task. -/
structure Delivery (α : Type) where
  id : Nat
  due : Nat
  response : Except CallFailure (Envelope α)

structure Rehearsal (α : Type) where
  codec : Codec α
  script : BackendScript
  session : Session α
  calls : Nat := 0
  deliveries : List (Delivery α) := []

/-- How long the host waits, in milliseconds. -/
def patience : Nat := 60000

/-- What the host does next in a rehearsal. Only the first four can stand together in a batch. -/
inductive HostAction where
  | input (query : String)
  | setValue (selection : Selection)
  | poll
  | unmount

inductive RehearsalStep where
  | act (action : HostAction)
  | batch (actions : List HostAction)
  | advance (ms : Nat)
  | next
  | search (query : String)
  | resolve

/-- What the host hears. -/
inductive HostResult where
  | done
  | changed (changed : Bool)
  | updated (kind : RequestKind)
  | closed
  | options (options : List SelectOption)
  | timeout
  | all (results : List HostResult)

namespace Rehearsal

/-- The reply of the script to the next call with a query. -/
def nextReply (rehearsal : Rehearsal α) (query : String) : Rehearsal α × ScriptedReply :=
  let call := rehearsal.session.profile.call query
  ({ rehearsal with calls := rehearsal.calls + 1 }, rehearsal.script.reply call rehearsal.calls)

def read (rehearsal : Rehearsal α) (content : Except CallFailure Json) :
    Except CallFailure (Envelope α) :=
  readResponse (Envelope.codec rehearsal.codec) content

def answer (rehearsal : Rehearsal α) (id : Nat) (response : Except CallFailure (Envelope α)) :
    Rehearsal α :=
  { rehearsal with
    session := rehearsal.session.answer id response
    deliveries := rehearsal.deliveries.filter (·.id ≠ id) }

def isAwaiting (session : Session α) (id : Nat) : Bool :=
  (session.task? id).any (·.stage matches .awaiting)

/-- A task whose time has come. If it calls the backend and the answer comes at once, it goes on
with it. -/
def wake (rehearsal : Rehearsal α) (id : Nat) (query : String) : Rehearsal α :=
  let session := rehearsal.session.wake id
  let rehearsal := { rehearsal with session }
  if !isAwaiting session id then rehearsal
  else
    let (rehearsal, reply) := rehearsal.nextReply query
    match reply with
    | .never => rehearsal
    | .after 0 content => rehearsal.answer id (rehearsal.read content)
    | .after delay content =>
        { rehearsal with
          deliveries :=
            ⟨id, session.now + delay, rehearsal.read content⟩ :: rehearsal.deliveries }

/-- When a task that waits goes on by itself. -/
def dueTime (rehearsal : Rehearsal α) (task : Task) : Option Nat :=
  match task.stage with
  | .pending due => some due
  | .awaiting => (rehearsal.deliveries.find? (·.id == task.id)).map (·.due)
  | .granted _ => some rehearsal.session.now
  | .blocked _ => none

def isReady (rehearsal : Rehearsal α) (task : Task) : Bool :=
  (rehearsal.dueTime task).any (· ≤ rehearsal.session.now)

def runTask (rehearsal : Rehearsal α) (task : Task) : Rehearsal α :=
  match task.stage with
  | .pending _ => rehearsal.wake task.id task.query
  | .granted _ => { rehearsal with session := rehearsal.session.send task.id }
  | .awaiting =>
      match rehearsal.deliveries.find? (·.id == task.id) with
      | some delivery => rehearsal.answer task.id delivery.response
      | none => rehearsal
  | .blocked _ => rehearsal

def settleFor : Nat → Rehearsal α → Rehearsal α
  | 0, rehearsal => rehearsal
  | fuel + 1, rehearsal =>
      match rehearsal.session.tasks.find? rehearsal.isReady with
      | some task => settleFor fuel (rehearsal.runTask task)
      | none => rehearsal

/-- Let the tasks run as far as they can without time passing. No task runs over three times. -/
def settle (rehearsal : Rehearsal α) : Rehearsal α :=
  settleFor (3 * rehearsal.session.tasks.length) rehearsal

/-- The next time at which a task goes on. -/
def nextTime (rehearsal : Rehearsal α) : Option Nat :=
  (rehearsal.session.tasks.filterMap rehearsal.dueTime).min?

def moveTo (rehearsal : Rehearsal α) (time : Nat) : Rehearsal α :=
  { rehearsal with session := rehearsal.session.wait (time - rehearsal.session.now) }

def advanceFor : Nat → Rehearsal α → Nat → Rehearsal α
  | 0, rehearsal, target => (rehearsal.moveTo target).settle
  | fuel + 1, rehearsal, target =>
      let rehearsal := rehearsal.settle
      match rehearsal.nextTime with
      | some time =>
          if time ≤ target then advanceFor fuel (rehearsal.moveTo time) target
          else (rehearsal.moveTo target).settle
      | none => (rehearsal.moveTo target).settle

/-- Let time pass until a given time. Every task waits at most twice for the clock. -/
def advanceTo (rehearsal : Rehearsal α) (target : Nat) : Rehearsal α :=
  advanceFor (2 * rehearsal.session.tasks.length + 1) rehearsal target

def awaitFor : Nat → Rehearsal α → Nat → Rehearsal α × HostResult
  | 0, rehearsal, deadline => ((rehearsal.moveTo deadline).settle, .timeout)
  | fuel + 1, rehearsal, deadline =>
      let (session, update) := rehearsal.session.nextUpdate
      let rehearsal := { rehearsal with session }
      match update with
      | .applied kind => (rehearsal, .updated kind)
      | .closed => (rehearsal, .closed)
      | .waiting =>
          let rehearsal := rehearsal.settle
          if !rehearsal.session.channel.isEmpty then awaitFor fuel rehearsal deadline
          else
            match rehearsal.nextTime with
            | some time =>
                if time ≤ deadline then awaitFor fuel (rehearsal.moveTo time).settle deadline
                else ((rehearsal.moveTo deadline).settle, .timeout)
            | none => ((rehearsal.moveTo deadline).settle, .timeout)

/-- Wait for the next update. Each round takes an outcome or moves the clock for a task. -/
def await (rehearsal : Rehearsal α) : Rehearsal α × HostResult :=
  let rounds := 3 * rehearsal.session.tasks.length + rehearsal.session.channel.length + 2
  awaitFor rounds rehearsal (rehearsal.session.now + patience)

def finish (rehearsal : Rehearsal α) (content : Except CallFailure Json) :
    Rehearsal α × HostResult :=
  let (session, options) := rehearsal.session.finishDirect (rehearsal.read content)
  ({ rehearsal with session }, .options options)

/-- Make a search on behalf of the host and wait for its answer. -/
def searchNow (rehearsal : Rehearsal α) (query : String) (resolves : Bool) :
    Rehearsal α × HostResult :=
  let start := rehearsal.session.now
  let (rehearsal, reply) :=
    { rehearsal with session := rehearsal.session.beginSearch query resolves }.nextReply query
  let giveUp :=
    let rehearsal := rehearsal.advanceTo (start + patience)
    ({ rehearsal with session := rehearsal.session.abandon }, HostResult.timeout)
  match reply with
  | .never => giveUp
  | .after 0 content => rehearsal.finish content
  | .after delay content =>
      if patience < delay then giveUp else (rehearsal.advanceTo (start + delay)).finish content

def act (rehearsal : Rehearsal α) : HostAction → Rehearsal α × HostResult
  | .input query => ({ rehearsal with session := rehearsal.session.inputChanged query }, .done)
  | .setValue selection =>
      ({ rehearsal with session := rehearsal.session.setValue selection }, .done)
  | .poll =>
      let (session, changed) := rehearsal.session.poll
      ({ rehearsal with session }, .changed changed)
  | .unmount => ({ rehearsal with session := rehearsal.session.unmount }, .done)

def actAll (rehearsal : Rehearsal α) : List HostAction → Rehearsal α × List HostResult
  | [] => (rehearsal, [])
  | action :: rest =>
      let (rehearsal, result) := rehearsal.act action
      let (rehearsal, results) := rehearsal.actAll rest
      (rehearsal, result :: results)

/-- One step of a rehearsal, after which the tasks run as far as they can. -/
def play (rehearsal : Rehearsal α) (step : RehearsalStep) : Rehearsal α × HostResult :=
  let (rehearsal, result) :=
    match step with
    | .act action => rehearsal.act action
    | .batch actions =>
        let (rehearsal, results) := rehearsal.actAll actions
        (rehearsal, .all results)
    | .advance ms => (rehearsal.advanceTo (rehearsal.session.now + ms), .done)
    | .next => rehearsal.await
    | .search query => rehearsal.searchNow query false
    | .resolve =>
        if rehearsal.session.selector.selection.isEmpty then (rehearsal, .options [])
        else rehearsal.searchNow "" true
  (rehearsal.settle, result)

end Rehearsal

end IssueDesk
