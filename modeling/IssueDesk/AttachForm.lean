import IssueDesk.Log.Record
import IssueDesk.Picker.InstancePicker
import IssueDesk.Text.Character
import IssueDesk.Tracker.Envelope
import IssueDesk.Wire.Record

/-! The form that attaches a chat message to an issue as a comment. An instance and an issue key
have to be chosen; while a request is on its way no second one is made. -/

namespace IssueDesk

structure AttachRequest where
  postId : String
  currentTeam : String
  issueKey : String
  instanceId : String
  deriving DecidableEq, Repr

def AttachRequest.encode (request : AttachRequest) : Json :=
  .object
    [("post_id", .text request.postId), ("current_team", .text request.currentTeam),
      ("issueKey", .text request.issueKey), ("instance_id", .text request.instanceId)]

structure AttachForm where
  postId : String
  rootPostId : Option String
  currentTeam : String
  instanceId : Option String := none
  issueKey : Option String := none
  submitting : Bool := false
  error : Option String := none
  deriving DecidableEq, Repr

namespace AttachForm

def start (postId : String) (rootPostId : Option String) (currentTeam : String) : AttachForm :=
  { postId, rootPostId := nonEmpty? rootPostId, currentTeam }

/-- The input for which the backend returns every key of a thread. -/
def anyKeyInput : String := "_"

/-- The call that looks for a key to begin with; a message outside a thread needs none. -/
def keyCall? (form : AttachForm) : Option BackendCall :=
  form.rootPostId.map fun rootId => .threadKeys rootId anyKeyInput

def setInstance (form : AttachForm) (instanceId : String) : AttachForm :=
  { form with instanceId := nonEmpty? (some instanceId) }

def setIssueKey (form : AttachForm) (issueKey : String) : AttachForm :=
  { form with issueKey := nonEmpty? (some issueKey) }

/-- Take the first key of the thread, in upper case, if there is one. -/
def prefill (form : AttachForm) (keys : List String) : AttachForm :=
  match keys with
  | key :: _ => form.setIssueKey (Text.toUpper key)
  | [] => form

def prefillFailureRecord (rootId : String) (failure : CallFailure) : Log.Record :=
  ⟨.warn, "Failed to look up thread issue keys: " ++ failure.text, [("root_id", rootId)]⟩

def showsIssueSelector (form : AttachForm) : Bool := form.instanceId.isSome

def canSubmit (form : AttachForm) : Bool :=
  form.instanceId.isSome && form.issueKey.isSome && !form.submitting

/-- The request with the instance and the key that are chosen; while one is missing there is none. -/
def request? (form : AttachForm) : Option AttachRequest := do
  let issueKey ← form.issueKey
  let instanceId ← form.instanceId
  return { postId := form.postId, currentTeam := form.currentTeam, issueKey, instanceId }

/-- The form counts as submitting before the request is put together. -/
def submit (form : AttachForm) : AttachForm × Option AttachRequest :=
  if form.canSubmit then ({ form with submitting := true }, form.request?) else (form, none)

/-- The backend's answer to a request; the second component tells whether the form should close. -/
def submitFinished (form : AttachForm) (error : Option String) : AttachForm × Bool :=
  match error with
  | some message => ({ form with submitting := false, error := some message }, false)
  | none => (form, true)

/-- One thing that the host does with the form. A search for keys without an answer was given up. -/
inductive Operation where
  | prefill (answer : Option (Except CallFailure (List String)))
  | setInstance (instanceId : String)
  | setIssueKey (issueKey : String)
  | submit
  | submitFinished (error : Option String)

/-- What the host hears back. -/
inductive Reply where
  | done
  | submitted (request : Option AttachRequest)
  | finished (closes : Bool)
  deriving DecidableEq, Repr

structure Effect where
  form : AttachForm
  reply : Reply := .done
  calls : List BackendCall := []
  records : List Log.Record := []

/-- The search for a key to begin with, if the message stands in a thread. -/
def searchKey (form : AttachForm) (answer : Option (Except CallFailure (List String))) : Effect :=
  match form.rootPostId, answer with
  | some rootId, some (.error failure) =>
      { form, calls := form.keyCall?.toList, records := [prefillFailureRecord rootId failure] }
  | some _, some (.ok keys) => { form := form.prefill keys, calls := form.keyCall?.toList }
  | _, _ => { form, calls := form.keyCall?.toList }

/-- The form after an operation, with all that comes of it. -/
def perform (form : AttachForm) : Operation → Effect
  | .prefill answer => form.searchKey answer
  | .setInstance instanceId => { form := form.setInstance instanceId }
  | .setIssueKey issueKey => { form := form.setIssueKey issueKey }
  | .submit =>
      let (form, request) := form.submit
      { form, reply := .submitted request }
  | .submitFinished error =>
      let (form, closes) := form.submitFinished error
      { form, reply := .finished closes }

end AttachForm

end IssueDesk
