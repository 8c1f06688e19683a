import IssueDesk.FirstOccurrence
import IssueDesk.Tracker.Entity
import IssueDesk.Tracker.Envelope

/-! Where the options of a selector come from: the backend's answer, each entity shown as an option,
each value once, and narrowed to what was typed. -/

namespace IssueDesk

/-- Which part of an option a query has to equal. -/
inductive NarrowBy where
  | label
  | value
  deriving DecidableEq, Repr

structure Source (α : Type) where
  toOption : α → SelectOption
  narrow : Option NarrowBy := none

/-- Why a search gave no options: the backend said so, or the call failed. -/
inductive SearchError where
  | backend (message : String)
  | transport (failure : CallFailure)
  deriving DecidableEq, Repr

def SearchError.message : SearchError → String
  | backend message => "Backend reported an error: " ++ message
  | transport failure => "Search request failed: " ++ failure.text

/-- The outcome of a search. -/
abbrev Answer := Except SearchError (List SelectOption)

namespace Source

def keeps (source : Source α) (query : String) (option : SelectOption) : Bool :=
  query.isEmpty ||
    match source.narrow with
    | none => true
    | some .label => option.label == query
    | some .value => option.value == query

/-- The options in a list of entities: of several with one value the first, and of these the ones
that the query keeps. -/
def options (source : Source α) (query : String) (entities : List α) : List SelectOption :=
  (distinctBy (·.value) (entities.map source.toOption)).filter (source.keeps query)

/-- What a response means for a query. -/
def fetch (source : Source α) (query : String) (response : Except CallFailure (Envelope α)) :
    Answer :=
  match response with
  | .error failure => .error (.transport failure)
  | .ok envelope =>
      match envelope.error with
      | some error => .error (.backend error.message)
      | none => .ok (source.options query (envelope.data.getD []))

end Source

end IssueDesk
