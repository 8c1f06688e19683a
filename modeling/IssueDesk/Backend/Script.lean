import IssueDesk.Tracker.Envelope
import IssueDesk.Wire.Codec

/-! A backend that follows a script. A rule says for which calls it holds, by the query and by the
number of calls made before; a call takes the first rule that holds for it. Without a rule the
answer is an empty object. -/

namespace IssueDesk

open Wire

/-- What comes back for a call: nothing ever, or something after a delay. -/
inductive ScriptedReply where
  | never
  | after (delay : Nat) (content : Except CallFailure Json)

/-- What comes back without any delay. -/
def ScriptedReply.atOnce? : ScriptedReply → Option (Except CallFailure Json)
  | after 0 content => some content
  | _ => none

structure ScriptRule where
  query : Option String
  number : Option Nat
  reply : ScriptedReply

abbrev BackendScript := List ScriptRule

namespace BackendScript

def holdsFor (rule : ScriptRule) (call : BackendCall) (number : Nat) : Bool :=
  rule.query.all (some · == call.query?) && rule.number.all (· == number)

/-- The reply to a call before which `number` calls were made. -/
def reply (script : BackendScript) (call : BackendCall) (number : Nat) : ScriptedReply :=
  match script.find? (holdsFor · call number) with
  | some rule => rule.reply
  | none => .after 0 (.ok (.object []))

end BackendScript

def Wire.Fault.message : Fault → String
  | .mismatch cause => cause.message
  | .text .truncated => "the text ends too early"
  | .text .malformed => "the text is malformed"

/-- What a response says in the shape that the caller expects. One of another shape is a failure of
the call. -/
def readResponse (codec : Codec α) (content : Except CallFailure Json) : Except CallFailure α :=
  match content with
  | .error failure => .error failure
  | .ok json =>
      match codec.decode .value (Document.ofJson json) with
      | .ok value => .ok value
      | .error fault =>
          .error ⟨["Response does not match the selector's payload shape", fault.message]⟩

end IssueDesk
