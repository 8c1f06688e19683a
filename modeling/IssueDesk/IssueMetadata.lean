import IssueDesk.Files
import IssueDesk.KeySet
import IssueDesk.Wire.Record

/-! What is known of the projects of an instance: the issue types, and the custom fields with the
issue types and projects on which each exists. Where two entries have the same key, the first
counts. -/

namespace IssueDesk

open Wire

structure IssueType where
  id : String
  name : String
  deriving DecidableEq, Repr

structure CustomField where
  key : String
  name : String
  issueTypes : KeySet
  projects : KeySet
  deriving DecidableEq

structure IssueMetadata where
  issueTypes : List IssueType
  fields : List CustomField
  deriving DecidableEq

def IssueType.codec : Codec IssueType :=
  .record "IssueType" (.cons (.required "id" .text) <| .cons (.required "name" .text) .nil)
    (fun (id, name, _) => { id, name })
    (fun t => (t.id, t.name, ()))

namespace CustomField

def appliesTo (field : CustomField) (issueType : String) : Bool := issueType ∈ field.issueTypes

/-- A field without projects is on the screens of all. -/
def inAnyProject (field : CustomField) (projects : List String) : Bool :=
  field.projects.isEmpty || projects.any (· ∈ field.projects)

def keysCodec : Codec KeySet := Codec.text.list.convert .ofList (·.keys)

def codec : Codec CustomField :=
  .record "FieldMetadataEntry"
    (.cons (.required "key" .text) <| .cons (.required "name" .text) <|
      .cons (.withDefault "applicable_issue_types" keysCodec .empty) <|
      .cons (.withDefault "projects" keysCodec .empty) .nil)
    (fun (key, name, issueTypes, projects, _) => { key, name, issueTypes, projects })
    (fun f => (f.key, f.name, f.issueTypes, f.projects, ()))

end CustomField

namespace IssueMetadata

def empty : IssueMetadata := ⟨[], []⟩

def field? (metadata : IssueMetadata) (key : String) : Option CustomField :=
  metadata.fields.find? (·.key == key)

/-- The issue type with an id; an unknown one is named after its id. -/
def issueType (metadata : IssueMetadata) (id : String) : IssueType :=
  (metadata.issueTypes.find? (·.id == id)).getD { id, name := id }

def fieldsForProjects (metadata : IssueMetadata) (projects : List String) : List CustomField :=
  metadata.fields.filter (·.inAnyProject projects)

def codec : Codec IssueMetadata :=
  .record "IssueMetadata"
    (.cons (.withDefault "issue_types" IssueType.codec.list []) <|
      .cons (.withDefault "fields" CustomField.codec.list []) .nil)
    (fun (issueTypes, fields, _) => { issueTypes, fields })
    (fun m => (m.issueTypes, m.fields, ()))

end IssueMetadata

/-- Why a file gives no metadata. -/
inductive MetadataFault where
  | unreadable (path : Path)
  | unsound (fault : Fault)
  deriving DecidableEq, Repr

def MetadataFault.message : MetadataFault → String
  | unreadable path => "Failed to read metadata file " ++ path
  | unsound _ => "Failed to parse issue metadata"

/-- The metadata in a file. -/
def IssueMetadata.atPath (files : Files) (path : Path) : Except MetadataFault IssueMetadata :=
  match files path with
  | none => .error (.unreadable path)
  | some text => (codec.ofText text).mapError .unsound

end IssueDesk
