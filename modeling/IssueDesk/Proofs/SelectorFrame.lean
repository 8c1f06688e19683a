import IssueDesk.Selector.Session

/-! What the parts of a step leave alone. Most of what a session does concerns the selector or the
log only: the requests under way, the clock and what the journal says of requests stay as they are
(`SameRequests`). What an outcome does to the selector is `Selector.take`; nothing else about an
outcome counts, so taking outcomes is a fold over the selector. -/

namespace IssueDesk

/-- The options that an answer stands for: none if it is a failure. -/
def Answer.settled : Answer → List SelectOption
  | .ok options => options
  | .error _ => []

def Answer.failed : Answer → Bool
  | .ok _ => false
  | .error _ => true

/-- A request, whatever has become of it. -/
abbrev RequestKey := RequestKind × Nat

def Task.key (task : Task) : RequestKey := (task.kind, task.id)

def Outcome.key (outcome : Outcome) : RequestKey := (outcome.kind, outcome.id)

namespace Event

/-- The id and the text of a call that is made for a request of one kind. -/
def call? (kind : RequestKind) : Event → Option (Nat × String)
  | .called (.request ofKind id) query => if ofKind = kind then some (id, query) else none
  | _ => none

def receipt? : Event → Option RequestKey
  | .received kind id => some (kind, id)
  | _ => none

end Event

namespace Selector

/-- An outcome counts if it is the latest of its kind and the selector is mounted. -/
def accepts (selector : Selector) (outcome : Outcome) : Bool :=
  selector.mounted && outcome.id == selector.latest outcome.kind

/-- The selector after an outcome has been applied. -/
def take (selector : Selector) (outcome : Outcome) : Selector :=
  if selector.accepts outcome then
    let hasError := selector.hasError || outcome.answer.failed
    match outcome.kind with
    | .search => { selector with loading := false, options := outcome.answer.settled, hasError }
    | .lookup => { selector with labels := outcome.answer.settled, hasError }
  else selector

/-- The outcomes up to the first one that counts. -/
def untilAccepted (selector : Selector) : List Outcome → List Outcome
  | [] => []
  | outcome :: rest =>
      if selector.accepts outcome then [outcome] else outcome :: selector.untilAccepted rest

theorem take_of_not_accepts {selector : Selector} {outcome : Outcome}
    (h : selector.accepts outcome = false) : selector.take outcome = selector := by
  simp [take, h]

@[simp] theorem take_mounted (selector : Selector) (outcome : Outcome) :
    (selector.take outcome).mounted = selector.mounted := by
  unfold take
  split
  · cases outcome.kind <;> rfl
  · rfl

@[simp] theorem take_latest (selector : Selector) (outcome : Outcome) (kind : RequestKind) :
    (selector.take outcome).latest kind = selector.latest kind := by
  unfold take
  split
  · cases outcome.kind <;> cases kind <;> rfl
  · rfl

@[simp] theorem take_lastRequest (selector : Selector) (outcome : Outcome) :
    (selector.take outcome).lastRequest = selector.lastRequest := by
  unfold take
  split
  · cases outcome.kind <;> rfl
  · rfl

@[simp] theorem take_accepts (selector : Selector) (outcome other : Outcome) :
    (selector.take outcome).accepts other = selector.accepts other := by
  simp [accepts]

/-- Taking outcomes keeps all that no outcome writes. -/
theorem foldl_take_keeps {β : Type} (view : Selector → β)
    (hview : ∀ selector outcome, view (take selector outcome) = view selector)
    (outcomes : List Outcome) (selector : Selector) :
    view (outcomes.foldl take selector) = view selector := by
  induction outcomes generalizing selector with
  | nil => rfl
  | cons outcome rest ih => rw [List.foldl_cons, ih, hview]

theorem foldl_take_mounted (outcomes : List Outcome) (selector : Selector) :
    (outcomes.foldl take selector).mounted = selector.mounted :=
  foldl_take_keeps _ take_mounted outcomes selector

theorem foldl_take_latest (outcomes : List Outcome) (selector : Selector) (kind : RequestKind) :
    (outcomes.foldl take selector).latest kind = selector.latest kind :=
  foldl_take_keeps (·.latest kind) (take_latest · · kind) outcomes selector

theorem foldl_take_lastRequest (outcomes : List Outcome) (selector : Selector) :
    (outcomes.foldl take selector).lastRequest = selector.lastRequest :=
  foldl_take_keeps _ take_lastRequest outcomes selector

end Selector

namespace Session

/-- The calls made for requests of a kind, in order. -/
def calls (session : Session α) (kind : RequestKind) : List (Nat × String) :=
  session.journal.filterMap (Event.call? kind)

/-- The requests whose outcomes the host has taken out of the channel, in order. -/
def receipts (session : Session α) : List RequestKey :=
  session.journal.filterMap Event.receipt?

/-- Two sessions differ at most in the selector, the host's own search and the remarks of the
journal. -/
structure SameRequests (session session' : Session α) : Prop where
  profile : session'.profile = session.profile
  now : session'.now = session.now
  tasks : session'.tasks = session.tasks
  channel : session'.channel = session.channel
  calls : ∀ kind, session'.calls kind = session.calls kind
  receipts : session'.receipts = session.receipts

namespace SameRequests

theorem refl (session : Session α) : SameRequests session session :=
  ⟨rfl, rfl, rfl, rfl, fun _ => rfl, rfl⟩

theorem trans {first second third : Session α} (h : SameRequests first second)
    (h' : SameRequests second third) : SameRequests first third where
  profile := h'.profile.trans h.profile
  now := h'.now.trans h.now
  tasks := h'.tasks.trans h.tasks
  channel := h'.channel.trans h.channel
  calls kind := (h'.calls kind).trans (h.calls kind)
  receipts := h'.receipts.trans h.receipts

theorem update (session : Session α) (f : Selector → Selector) :
    SameRequests session (session.update f) :=
  ⟨rfl, rfl, rfl, rfl, fun _ => rfl, rfl⟩

/-- An event that speaks of no request may be told. -/
theorem emit (session : Session α) (event : Event) (hcall : ∀ kind, event.call? kind = none)
    (hreceipt : event.receipt? = none) : SameRequests session (session.emit event) where
  profile := rfl
  now := rfl
  tasks := rfl
  channel := rfl
  calls kind := by simp [Session.calls, Session.emit, hcall kind]
  receipts := by simp [Session.receipts, Session.emit, hreceipt]

theorem log (session : Session α) (level : Log.Level) (message : String)
    (fields : List (String × String)) : SameRequests session (session.log level message fields) :=
  emit session _ (fun _ => rfl) rfl

theorem reportError (session : Session α) (hasError : Bool) :
    SameRequests session (session.reportError hasError) := by
  unfold Session.reportError
  split
  · exact refl session
  · exact (update session _).trans (emit _ _ (fun _ => rfl) rfl)

theorem settle (session : Session α) (query : String) (answer : Answer) :
    SameRequests session (session.settle query answer).1 := by
  cases answer with
  | ok options => exact refl session
  | error error =>
      have hlog := log session (errorLevel error) error.message [("query", query)]
      simp only [Session.settle]
      split
      · exact hlog.trans (reportError _ true)
      · exact hlog

theorem write (session : Session α) (outcome : Outcome) :
    SameRequests session (session.write outcome) := by
  unfold Session.write
  cases outcome.kind with
  | search =>
      have hloading := update session ({ · with loading := false })
      exact (hloading.trans (settle _ _ _)).trans (update _ _)
  | lookup => exact (settle session "" outcome.answer).trans (update _ _)

theorem apply (session : Session α) (outcome : Outcome) :
    SameRequests session (session.apply outcome).1 := by
  unfold Session.apply
  dsimp only
  split
  · exact refl session
  · split
    · exact write session outcome
    · exact log session _ _ _

theorem applyAll (session : Session α) (outcomes : List Outcome) :
    SameRequests session (session.applyAll outcomes).1 := by
  induction outcomes generalizing session with
  | nil => exact refl session
  | cons outcome rest ih => exact (apply session outcome).trans (ih _)

theorem hold (session : Session α) (selection : Selection) :
    SameRequests session (session.hold selection) := by
  unfold Session.hold
  dsimp only
  split
  · exact (log session _ _ _).trans (update _ _)
  · exact update session _

theorem abandon (session : Session α) : SameRequests session session.abandon :=
  ⟨rfl, rfl, rfl, rfl, fun _ => rfl, rfl⟩

theorem beginSearch (session : Session α) (query : String) (resolves : Bool) :
    SameRequests session (session.beginSearch query resolves) := by
  have hcalled := emit (session.reportError false) (.called .host query) (fun _ => rfl) rfl
  have hreport := (reportError session false).trans hcalled
  exact ⟨hreport.profile, hreport.now, hreport.tasks, hreport.channel, hreport.calls,
    hreport.receipts⟩

theorem beginResolve (session : Session α) : SameRequests session session.beginResolve := by
  unfold Session.beginResolve
  split
  · exact refl session
  · exact beginSearch session "" true

theorem finishDirect (session : Session α) (response : Except CallFailure (Envelope α)) :
    SameRequests session (session.finishDirect response).1 := by
  unfold Session.finishDirect
  cases hdirect : session.direct with
  | none => exact refl session
  | some direct =>
      have hdone : SameRequests session { session with direct := none } := abandon session
      have hsettle := hdone.trans (settle { session with direct := none } direct.query
        (session.profile.source.fetch direct.query response))
      dsimp only
      split <;> dsimp only
      · exact hsettle.trans (update _ _)
      · exact hsettle

/-- What starts a task may be told before or after. -/
theorem spawn {session session' : Session α} (h : SameRequests session session') (task : Task) :
    SameRequests (session.spawn task) (session'.spawn task) where
  profile := h.profile
  now := h.now
  tasks := by simp only [Session.spawn, h.tasks]
  channel := h.channel
  calls := h.calls
  receipts := h.receipts

end SameRequests

/-! What becomes of the selector. -/

@[simp] theorem reportError_selector (session : Session α) (hasError : Bool) :
    (session.reportError hasError).selector = { session.selector with hasError } := by
  unfold reportError
  split
  next h => rw [← h]
  next => rfl

theorem settle_snd (session : Session α) (query : String) (answer : Answer) :
    (session.settle query answer).2 = answer.settled := by
  cases answer <;> rfl

theorem settle_selector (session : Session α) (query : String) (answer : Answer) :
    (session.settle query answer).1.selector =
      { session.selector with
        hasError := session.selector.hasError || session.selector.mounted && answer.failed } := by
  cases answer with
  | ok options => simp [settle, Answer.failed]
  | error error =>
      rcases session with ⟨profile, selector⟩
      rcases selector with ⟨selection, labels, labelsFor, query, options, loading, hasError,
        lastRequest, latestSearch, latestLookup, mounted⟩
      cases mounted <;> simp [settle, log, emit, Answer.failed]

theorem write_selector {session : Session α} {outcome : Outcome}
    (h : session.selector.accepts outcome = true) :
    (session.write outcome).selector = session.selector.take outcome := by
  have hmounted : session.selector.mounted = true := by
    simp only [Selector.accepts, Bool.and_eq_true] at h
    exact h.1
  unfold write Selector.take
  cases outcome.kind <;>
    simp [h, update, settle_selector, settle_snd, hmounted]

theorem apply_selector (session : Session α) (outcome : Outcome) :
    (session.apply outcome).1.selector = session.selector.take outcome := by
  unfold apply
  dsimp only
  cases hmounted : session.selector.mounted with
  | false => simp [Selector.take, Selector.accepts, hmounted]
  | true =>
      by_cases hlatest : outcome.id = session.selector.latest outcome.kind
      · have haccepts : session.selector.accepts outcome = true := by
          simp [Selector.accepts, hmounted, hlatest]
        simp [hlatest, write_selector haccepts]
      · simp [Selector.take, Selector.accepts, hlatest, log, emit]

theorem apply_snd (session : Session α) (outcome : Outcome) :
    (session.apply outcome).2 =
      if session.selector.accepts outcome then some outcome.kind else none := by
  unfold apply
  dsimp only
  cases hmounted : session.selector.mounted with
  | false => simp [Selector.accepts, hmounted]
  | true =>
      by_cases hlatest : outcome.id = session.selector.latest outcome.kind <;>
        simp [Selector.accepts, hmounted, hlatest]

theorem applyAll_selector (session : Session α) (outcomes : List Outcome) :
    (session.applyAll outcomes).1.selector = outcomes.foldl Selector.take session.selector := by
  induction outcomes generalizing session with
  | nil => rfl
  | cons outcome rest ih =>
      show ((session.apply outcome).1.applyAll rest).1.selector = _
      rw [ih, apply_selector, List.foldl_cons]

end Session

end IssueDesk
