import IssueDesk.IssueMetadata
import IssueDesk.Tracker.Entity

/-! The events and the roles that a subscription can choose. -/

namespace IssueDesk

def builtInEvents : List (String × String) :=
  [("event_created", "Issue Created"),
    ("event_deleted", "Issue Deleted"),
    ("event_updated_resolved", "Issue Resolved"),
    ("event_created_comment", "Comment Created"),
    ("event_updated_comment", "Comment Updated"),
    ("event_deleted_comment", "Comment Deleted"),
    ("event_updated_any", "Issue Updated: Any"),
    ("event_updated_assignee", "Issue Updated: Assignee"),
    ("event_updated_attachment", "Issue Updated: Attachment"),
    ("event_updated_description", "Issue Updated: Description"),
    ("event_updated_fix_version", "Issue Updated: Fix Version"),
    ("event_updated_labels", "Issue Updated: Labels"),
    ("event_updated_priority", "Issue Updated: Priority"),
    ("event_updated_sprint", "Issue Updated: Sprint"),
    ("event_updated_status", "Issue Updated: Status"),
    ("event_updated_summary", "Issue Updated: Summary"),
    ("event_updated_components", "Issue Updated: Components")]

/-- The roles that a subscriber can have on an issue. -/
def selfRoles : List (String × String) :=
  [("assignee", "Assignee"), ("reporter", "Reporter"), ("watcher", "Watcher")]

def labelled (entry : String × String) : SelectOption := { value := entry.1, label := entry.2 }

/-- The event that a custom field is updated. -/
def CustomField.eventOption (field : CustomField) : SelectOption :=
  { value := "event_updated_" ++ field.key, label := "Issue Updated: Custom - " ++ field.name }

/-- The built-in events, then one for each custom field of the selected projects. -/
def eventOptions (metadata : Option IssueMetadata) (projects : List String) : List SelectOption :=
  builtInEvents.map labelled ++
    match metadata with
    | some metadata => (metadata.fieldsForProjects projects).map CustomField.eventOption
    | none => []

def selfRoleOptions : List SelectOption := selfRoles.map labelled

end IssueDesk
