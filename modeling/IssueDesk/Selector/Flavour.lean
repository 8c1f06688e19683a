import IssueDesk.Backend.Script
import IssueDesk.Selector.Session
import IssueDesk.Text.Character
import IssueDesk.Tracker.Entity

/-! The selectors over the issue tracker: for assignees, for transitions and for issues. The backend
lists all transitions of an issue whatever is typed, so there a query has to equal a label.

A recorded response is replayed through a selector: a query is typed, the quiet period passes, the
response comes and the host takes the update. -/

namespace IssueDesk

open Wire

/-- A kind of selector: the entities it offers, how they stand on the wire, and the selector. -/
structure Flavour where
  Entity : Type
  codec : Codec Entity
  profile : Profile Entity

namespace Flavour

/-- The parts of an issue that a search for issues asks for. -/
def issueSearchFields : String := "key,summary"

def assignee (instanceId issueKey : String) : Flavour where
  Entity := User
  codec := User.codec
  profile :=
    { name := "assignee"
      source := { toOption := User.option }
      call := fun query => .assignees issueKey instanceId query }

def transition (instanceId issueKey : String) : Flavour where
  Entity := Transition
  codec := Transition.codec
  profile :=
    { name := "transition"
      source := { toOption := Transition.option, narrow := some .label }
      call := fun _ => .transitions issueKey instanceId }

def issue (instanceId : String) : Flavour where
  Entity := Issue
  codec := Issue.codec
  profile :=
    { name := "issue"
      source := { toOption := Issue.option }
      call := fun query => .issues issueSearchFields (Text.trim query) instanceId }

/-- A selector over options as they are. -/
def plain (name : String) : Flavour where
  Entity := SelectOption
  codec := SelectOption.codec
  profile := { name, source := { toOption := id }, call := .search }

def withDebounce (flavour : Flavour) (debounce : Nat) : Flavour :=
  { flavour with profile := { flavour.profile with debounce } }

def withMulti (flavour : Flavour) (multi : Bool) : Flavour :=
  { flavour with profile := { flavour.profile with multi } }

def narrowedBy (flavour : Flavour) (narrow : NarrowBy) : Flavour :=
  let source := { flavour.profile.source with narrow := some narrow }
  { flavour with profile := { flavour.profile with source } }

end Flavour

namespace Session

/-- The session after a query has been answered with a recorded response. -/
def replay (profile : Profile α) (query : String) (response : Except CallFailure (Envelope α)) :
    Session α :=
  let session := ((start profile).inputChanged query).wait profile.debounce
  let id := session.selector.latestSearch
  ((session.wake id).answer id response).nextUpdate.1

end Session

namespace Flavour

/-- The session of a selector after a query has been answered with a JSON value. -/
def replay (flavour : Flavour) (query : String) (payload : Json) : Session flavour.Entity :=
  Session.replay flavour.profile query (readResponse (Envelope.codec flavour.codec) (.ok payload))

end Flavour

end IssueDesk
