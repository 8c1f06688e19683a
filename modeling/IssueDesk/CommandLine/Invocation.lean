import IssueDesk.CommandLine.Argument
import IssueDesk.Files

/-! What a command line asks for. The configuration file and the wish for more logging can be given
before the command or after it; given in both places, the configuration after the command counts. -/

namespace IssueDesk.CommandLine

/-- The entities over which a recorded response can be shown as options. -/
inductive EntityKind where
  | assignee
  | transition
  | issue
  deriving DecidableEq, Repr

def EntityKind.named : List (String × EntityKind) :=
  [("assignee", assignee), ("transition", transition), ("issue", issue)]

inductive Command where
  | conflicts (metadata : Path) (previous new fields : List String)
  | events (metadata : Option Path) (projects : List String)
  | instances (connected : List String) (saved : Option String)
  | options (kind : EntityKind) (response : Path) (query : String)
  deriving DecidableEq, Repr

structure Invocation where
  configuration : Option Path
  verbose : Bool
  command : Command
  deriving DecidableEq, Repr

def path (long : String) (short : Option Char) : Parameter :=
  { long, short, arity := .one, accepts := fun value => !value.isEmpty }

def everywhere : List Parameter :=
  [path "config" (some 'c'), { long := "verbose", short := some 'v', arity := .flag }]

/-- What can stand before the command. -/
def outer : Grammar where
  parameters := { long := "version", short := some 'V', arity := .version } :: everywhere
  commands := ["conflicts", "events", "instances", "options"]

/-- What can stand after a command. -/
def inner (parameters : List Parameter) : Grammar where
  parameters := parameters ++ everywhere
  commands := []

def text (long : String) : Parameter := { long, arity := .one }

def texts (long : String) : Parameter := { long, arity := .several }

def kind : Parameter :=
  { long := "kind", arity := .one, accepts := fun value => (EntityKind.named.lookup value).isSome }

def parametersOf (command : String) : List Parameter :=
  match command with
  | "conflicts" => [path "metadata" none, texts "previous", texts "new", texts "fields"]
  | "events" => [path "metadata" none, texts "projects"]
  | "instances" => [texts "connected", text "saved"]
  | _ => [kind, path "response" none, text "query"]

/-- The command with a name, if what it requires was given. -/
def commandOf (name : String) (given : List Given) : Option Command :=
  match name with
  | "conflicts" => do
      let metadata ← valueOf given "metadata"
      return .conflicts metadata (valuesOf given "previous") (valuesOf given "new")
        (valuesOf given "fields")
  | "events" => some (.events (valueOf given "metadata") (valuesOf given "projects"))
  | "instances" => some (.instances (valuesOf given "connected") (valueOf given "saved"))
  | "options" => do
      let kind ← (valueOf given "kind").bind fun name => EntityKind.named.lookup name
      let response ← valueOf given "response"
      return .options kind response ((valueOf given "query").getD "")
  | _ => none

def isGiven (given : List Given) (parameter : String) : Bool :=
  given.any (·.parameter == parameter)

/-- What the arguments ask for. -/
def Invocation.ofArguments (arguments : List String) : Except Refusal Invocation := do
  let before ← scan outer [] arguments
  match before.command with
  | none => .error .usage
  | some (name, rest) =>
      let after ← scan (inner (parametersOf name)) [] rest
      match commandOf name after.given with
      | none => .error .usage
      | some command =>
          return {
            configuration := (valueOf after.given "config").or (valueOf before.given "config")
            verbose := isGiven before.given "verbose" || isGiven after.given "verbose"
            command }

end IssueDesk.CommandLine
