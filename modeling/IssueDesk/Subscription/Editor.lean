import IssueDesk.Conflict
import IssueDesk.Log.Record
import IssueDesk.Subscription.Events
import IssueDesk.Subscription.Filters
import IssueDesk.Text.Character
import IssueDesk.Text.Quoted

/-! The state of a form in which a person edits a channel's subscription. A change of issue types is
refused while it conflicts with the selected field filters; the refusal is shown until the next
change of the filters. New projects take every filter that depends on projects with them. -/

namespace IssueDesk

structure Editor where
  channelId : String
  existingId : Option String := none
  name : String := ""
  instanceId : String := ""
  filters : Filters := {}
  metadata : Option IssueMetadata := none
  conflictError : Option String := none
  error : Option String := none
  submitting : Bool := false
  deriving DecidableEq

/-- Why a subscription cannot be saved as it is. -/
inductive SubscriptionFlaw where
  | missingName
  | nameTooLong
  | missingProjects
  | missingEvents
  | missingRoles
  deriving DecidableEq, Repr

def SubscriptionFlaw.message : SubscriptionFlaw → String
  | missingName => "Subscription name is required"
  | nameTooLong => "Subscription name must be at most 100 characters"
  | missingProjects => "Select at least one project"
  | missingEvents => "Select at least one event"
  | missingRoles => "Select your role in the issues"

namespace Editor

def maxNameLength : Nat := 100

def create (channelId : String) : Editor := { channelId }

def edit (subscription : Subscription) : Editor :=
  { channelId := subscription.channelId
    existingId := subscription.id
    name := subscription.name
    instanceId := subscription.instanceId
    filters := subscription.filters }

def isEditing (editor : Editor) : Bool := editor.existingId.isSome

def header (editor : Editor) : String :=
  if editor.isEditing then "Edit Jira Subscription" else "Add Jira Subscription"

/-- Events and roles are only offered once a project is chosen. -/
def canSubmit (editor : Editor) : Bool := !editor.filters.projects.isEmpty

def setName (editor : Editor) (name : String) : Editor := { editor with name }

def setMetadata (editor : Editor) (metadata : IssueMetadata) : Editor :=
  { editor with metadata := some metadata }

def eventOptions (editor : Editor) : List SelectOption :=
  IssueDesk.eventOptions editor.metadata editor.filters.projects

/-- The same list of projects as before, unless empty, changes nothing. -/
def changeProjects (editor : Editor) (projects : List String) : Editor :=
  if projects ≠ [] ∧ projects = editor.filters.projects then { editor with conflictError := none }
  else
    { editor with
      conflictError := none
      filters := { projects, selfRoles := editor.filters.selfRoles } }

def changeInstance (editor : Editor) (instanceId : String) : Editor :=
  if instanceId = editor.instanceId then editor
  else { editor with instanceId, error := none }.changeProjects []

/-- What a change of issue types is held against. -/
def conflictsWith (editor : Editor) (issueTypes : List String) : ConflictReport :=
  match editor.metadata with
  | some metadata =>
      metadata.conflicts (editor.filters.fields.map (·.key)) editor.filters.issueTypes issueTypes
  | none => .empty

/-- Take over new issue types, unless they conflict. -/
def changeIssueTypes (editor : Editor) (issueTypes : List String) : Editor :=
  match (editor.conflictsWith issueTypes).message? with
  | some message => { editor with conflictError := some message }
  | none =>
      { editor with
        filters := { editor.filters with issueTypes }
        conflictError := none }

def changeEvents (editor : Editor) (events : List String) : Editor :=
  { editor with filters := { editor.filters with events }, conflictError := none }

def changeSelfRoles (editor : Editor) (selfRoles : List String) : Editor :=
  { editor with filters := { editor.filters with selfRoles }, conflictError := none }

def changeFields (editor : Editor) (fields : List FieldFilter) : Editor :=
  { editor with filters := { editor.filters with fields }, conflictError := none }

/-- The first thing that is wrong with the subscription. -/
def flaw? (editor : Editor) : Option SubscriptionFlaw :=
  let name := Text.trim editor.name
  if name.isEmpty then some .missingName
  else if maxNameLength < Text.charCount name then some .nameTooLong
  else if editor.filters.projects.isEmpty then some .missingProjects
  else if editor.filters.events.isEmpty then some .missingEvents
  else if editor.filters.selfRoles.isEmpty then some .missingRoles
  else none

/-- The subscription as it is sent. -/
def payload (editor : Editor) : Subscription :=
  { id := editor.existingId
    channelId := editor.channelId
    name := Text.trim editor.name
    instanceId := editor.instanceId
    filters := editor.filters }

def submit (editor : Editor) : Editor × Except SubscriptionFlaw Subscription :=
  match editor.flaw? with
  | some flaw => (editor, .error flaw)
  | none => ({ editor with submitting := true, error := none }, .ok editor.payload)

/-- The backend's answer to a submission. -/
def submitFinished (editor : Editor) (error : Option String) : Editor :=
  { editor with submitting := false, error := error.or editor.error }

/-- One thing that the host does with the form. -/
inductive Operation where
  | setName (name : String)
  | setMetadata (metadata : IssueMetadata)
  | changeInstance (instanceId : String)
  | changeProjects (projects : List String)
  | changeIssueTypes (issueTypes : List String)
  | changeEvents (events : List String)
  | changeSelfRoles (roles : List String)
  | changeFields (fields : List FieldFilter)
  | submit
  | submitFinished (error : Option String)

/-- What the host hears back. -/
inductive Reply where
  | done
  | checked (report : ConflictReport)
  | submitted (result : Except SubscriptionFlaw Subscription)

def blockedRecord (report : ConflictReport) : Log.Record :=
  ⟨.debug, "issue type change blocked", [("fields", Text.quotedList report.fieldNames)]⟩

def failureRecord (editor : Editor) (message : String) : Log.Record :=
  ⟨.warn, "saving subscription failed: " ++ message, [("channel_id", editor.channelId)]⟩

/-- The form after an operation, with the reply and what is logged. -/
def perform (editor : Editor) : Operation → Editor × Reply × List Log.Record
  | .setName name => (editor.setName name, .done, [])
  | .setMetadata metadata => (editor.setMetadata metadata, .done, [])
  | .changeInstance instanceId => (editor.changeInstance instanceId, .done, [])
  | .changeProjects projects => (editor.changeProjects projects, .done, [])
  | .changeIssueTypes issueTypes =>
      let report := editor.conflictsWith issueTypes
      (editor.changeIssueTypes issueTypes, .checked report,
        if report.message?.isSome then [blockedRecord report] else [])
  | .changeEvents events => (editor.changeEvents events, .done, [])
  | .changeSelfRoles roles => (editor.changeSelfRoles roles, .done, [])
  | .changeFields fields => (editor.changeFields fields, .done, [])
  | .submit =>
      let (editor, result) := editor.submit
      (editor, .submitted result, [])
  | .submitFinished error =>
      (editor.submitFinished error, .done, error.toList.map editor.failureRecord)

end Editor

end IssueDesk
