import IssueDesk.KeyMap
import IssueDesk.Wire.Record

/-! The entities of the issue tracker, each with the option that stands for it. A picker offers
instances and the projects of one; a selector offers users, transitions or issues. -/

namespace IssueDesk

open Wire

/-- An option that a selector shows. Its value is the stable identity of what it stands for, its
label what a person reads. -/
structure SelectOption where
  value : String
  label : String
  avatarUrl : Option String := none
  deriving DecidableEq, Repr, Inhabited

namespace SelectOption

/-- The option for a value of which nothing else is known. -/
def raw (value : String) : SelectOption := { value, label := value }

def codec : Codec SelectOption :=
  .record "SelectOption"
    (.cons (.required "value" .text) <| .cons (.required "label" .text) <|
      .cons (.omittable "avatar_url" .text) .nil)
    (fun (value, label, avatarUrl, _) => { value, label, avatarUrl })
    (fun o => (o.value, o.label, o.avatarUrl, ()))

end SelectOption

/-- An instance of the issue tracker. -/
structure Instance where
  id : String
  nickname : Option String
  deriving DecidableEq, Repr

namespace Instance

/-- The nickname, or the id where there is none. -/
def label (inst : Instance) : String :=
  (inst.nickname.filter (!·.isEmpty)).getD inst.id

def option (inst : Instance) : SelectOption := { value := inst.id, label := inst.label }

def codec : Codec Instance :=
  .record "Instance"
    (.cons (.required "instance_id" .text) <| .cons (.optional "alias" .text) .nil)
    (fun (id, nickname, _) => { id, nickname })
    (fun i => (i.id, i.nickname, ()))

end Instance

/-- The projects that an instance offers. -/
structure ProjectList where
  projects : List SelectOption
  defaultKey : Option String
  deriving DecidableEq, Repr

namespace ProjectList

def codec : Codec ProjectList :=
  .record "ProjectMetadata"
    (.cons (.withDefault "projects" SelectOption.codec.list []) <|
      .cons (.optional "default_project_key" .text) .nil)
    (fun (projects, defaultKey, _) => { projects, defaultKey })
    (fun p => (p.projects, p.defaultKey, ()))

end ProjectList

/-- The size of avatar that an option shows. -/
def smallAvatar : String := "24x24"

structure User where
  key : String
  accountId : Option String
  displayName : String
  avatarUrls : KeyMap String
  deriving DecidableEq

namespace User

/-- The key, or the account id where the tracker fills in no key. -/
def id (user : User) : String :=
  if user.key.isEmpty then user.accountId.getD "" else user.key

def option (user : User) : SelectOption :=
  { value := user.id
    label := user.displayName
    avatarUrl := (user.avatarUrls.get? smallAvatar).filter (!·.isEmpty) }

/-- An object of texts; of several members with one key the last stands. -/
def avatarCodec : Codec (KeyMap String) where
  encode urls := .object (urls.entries.map fun entry => (entry.1, .text entry.2))
  decode origin document :=
    match document with
    | .object members ending =>
        (Codec.text.decodeMembers origin ending members).map KeyMap.ofList
    | .keyless _ => faulty .malformed
    | other => wrongType "a map" other

def codec : Codec User :=
  .record "JiraUser"
    (.cons (.withDefault "key" .text "") <| .cons (.optional "accountId" .text) <|
      .cons (.required "displayName" .text) <|
      .cons (.withDefault "avatarUrls" avatarCodec .empty) .nil)
    (fun (key, accountId, displayName, avatarUrls, _) =>
      { key, accountId, displayName, avatarUrls })
    (fun u => (u.key, u.accountId, u.displayName, u.avatarUrls, ()))

end User

/-- A workflow step that can be taken on an issue, and the name of the status it leads to. -/
structure Transition where
  id : String
  name : String
  target : String
  deriving DecidableEq, Repr

namespace Transition

def option (transition : Transition) : SelectOption :=
  { value := transition.id, label := transition.name ++ " → " ++ transition.target }

def targetCodec : Codec String :=
  .record "TransitionTarget" (.cons (.required "name" .text) .nil)
    (fun (name, _) => name)
    (fun name => (name, ()))

def codec : Codec Transition :=
  .record "Transition"
    (.cons (.required "id" .text) <| .cons (.required "name" .text) <|
      .cons (.required "to" targetCodec) .nil)
    (fun (id, name, target, _) => { id, name, target })
    (fun t => (t.id, t.name, t.target, ()))

end Transition

structure Issue where
  key : String
  summary : String
  deriving DecidableEq, Repr

namespace Issue

def option (issue : Issue) : SelectOption :=
  { value := issue.key, label := issue.key ++ ": " ++ issue.summary }

def summaryCodec : Codec String :=
  .record "IssueFields" (.cons (.withDefault "summary" .text "") .nil)
    (fun (summary, _) => summary)
    (fun summary => (summary, ()))

def codec : Codec Issue :=
  .record "Issue"
    (.cons (.required "key" .text) <| .cons (.withDefault "fields" summaryCodec "") .nil)
    (fun (key, summary, _) => { key, summary })
    (fun i => (i.key, i.summary, ()))

end Issue

end IssueDesk
