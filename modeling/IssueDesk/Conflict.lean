import IssueDesk.FirstOccurrence
import IssueDesk.IssueMetadata

/-! Field filters that stop making sense when issue types are added to a subscription. A selected
field and an added issue type conflict when the metadata knows the field and the field does not
apply to the type. Issue types that were selected before are never held against a change. -/

namespace IssueDesk

structure FieldConflict where
  field : CustomField
  issueTypes : List IssueType
  deriving DecidableEq

structure ConflictReport where
  conflicts : List FieldConflict
  deriving DecidableEq

/-- The new ids that are not among the previous ones, each once, in order of first occurrence. -/
def addedIds (previous new : List String) : List String :=
  distinct (new.filter fun id => id ∉ previous)

namespace IssueMetadata

/-- The conflict of one field with added issue types, if there is one. -/
def fieldConflict? (metadata : IssueMetadata) (added : List String) (field : CustomField) :
    Option FieldConflict :=
  match added.filter fun id => !field.appliesTo id with
  | [] => none
  | missing => some { field, issueTypes := missing.map metadata.issueType }

/-- The conflicts of a change from previous to new issue types with the selected fields. Fields are
reported in the order of selection, issue types in the order of the new ones. -/
def conflicts (metadata : IssueMetadata) (selected previous new : List String) : ConflictReport :=
  let added := addedIds previous new
  ⟨((distinct selected).filterMap metadata.field?).filterMap (metadata.fieldConflict? added)⟩

end IssueMetadata

def FieldConflict.encode (conflict : FieldConflict) : Json :=
  .object
    [("field", CustomField.codec.encode conflict.field),
      ("issue_types", .array (conflict.issueTypes.map IssueType.codec.encode))]

namespace ConflictReport

def empty : ConflictReport := ⟨[]⟩

def isEmpty (report : ConflictReport) : Bool := report.conflicts.isEmpty

def fieldNames (report : ConflictReport) : List String := report.conflicts.map (·.field.name)

/-- The first issue type of the first conflict. -/
def firstIssueType? (report : ConflictReport) : Option IssueType :=
  report.conflicts.head?.bind (·.issueTypes.head?)

/-- What a person is told when a change is refused. -/
def message? (report : ConflictReport) : Option String :=
  report.firstIssueType?.map fun issueType =>
    "Issue Type(s) \"" ++ issueType.name ++ "\" does not have filter field(s): \"" ++
      ", ".intercalate report.fieldNames ++
      "\".  Please update the conflicting fields or create a separate subscription."

def encode (report : ConflictReport) : Json :=
  .object [("conflicts", .array (report.conflicts.map FieldConflict.encode))]

end ConflictReport

end IssueDesk
