import IssueDesk.Wire.Record

/-! The calls that selectors and forms make to the backend, and the envelope in which it answers:
data, an error, both or neither. An error counts whatever data comes with it. A failed call is told
apart from an answer that carries an error: the first never reached the issue tracker or came back
in a shape that is no answer. -/

namespace IssueDesk

open Wire

/-- A call together with what it is bound to. `search` is the call of a selector without a tracker
behind it. -/
inductive BackendCall where
  | search (query : String)
  | assignees (issueKey instanceId query : String)
  | transitions (issueKey instanceId : String)
  | issues (fields query instanceId : String)
  | projects (instanceId : String)
  | threadKeys (rootId input : String)
  deriving DecidableEq, Repr

/-- The text that is searched for; some calls have none. -/
def BackendCall.query? : BackendCall → Option String
  | search query => some query
  | assignees _ _ query => some query
  | issues _ query _ => some query
  | transitions _ _ => none
  | projects _ => none
  | threadKeys _ _ => none

/-- The reasons of a failed call, the outermost first. -/
structure CallFailure where
  reasons : List String
  deriving DecidableEq, Repr

def CallFailure.text (failure : CallFailure) : String := ": ".intercalate failure.reasons

structure BackendError where
  message : String
  deriving DecidableEq, Repr

def BackendError.codec : Codec BackendError :=
  .record "ApiError" (.cons (.required "message" .text) .nil)
    (fun (message, _) => { message })
    (fun e => (e.message, ()))

structure Envelope (α : Type) where
  data : Option (List α)
  error : Option BackendError
  deriving DecidableEq, Repr

namespace Envelope

def codec (item : Codec α) : Codec (Envelope α) :=
  .record "ApiResponse"
    (.cons (.nullable "data" item.list) <| .cons (.nullable "error" BackendError.codec) .nil)
    (fun (data, error, _) => { data, error })
    (fun e => (e.data, e.error, ()))

end Envelope

end IssueDesk
