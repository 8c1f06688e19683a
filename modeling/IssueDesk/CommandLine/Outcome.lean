import IssueDesk.CommandLine.Invocation
import IssueDesk.Configuration.Source
import IssueDesk.Conflict
import IssueDesk.Json.Printer
import IssueDesk.Log.Filter
import IssueDesk.Selector.Flavour
import IssueDesk.Subscription.Events

/-! What a command line gives. The configuration is read first, then the command does its work on
the files it names; what it has found is printed, and what went wrong is told apart from it. A run
is a function of its surroundings, which are the files and a few settings of the user. -/

namespace IssueDesk.CommandLine

open Wire

structure Surroundings where
  files : Files
  places : UserPlaces
  /-- The user's own filter for the log. -/
  logFilter : Option String

/-- Why a command fails. -/
inductive CommandFault where
  | configuration (fault : ConfigurationFault)
  | metadata (fault : MetadataFault)
  | unreadable (response : Path)
  | unsound (response : Path)
  | rejected
  deriving DecidableEq, Repr

def CommandFault.message : CommandFault → String
  | configuration fault => fault.message
  | metadata fault => fault.message
  | unreadable path => "Failed to read " ++ path
  | unsound _ => "Response is not valid JSON"
  | rejected => "The backend response was rejected; see the log above"

/-- What is told apart from the result: a line of the log, or something else. -/
inductive Notice where
  | log (text : String)
  | message (text : String)
  deriving DecidableEq, Repr

structure Outcome where
  succeeded : Bool
  output : String
  notices : List Notice
  deriving DecidableEq, Repr

/-- What a command finds: the value to print, and why the run counts as failed all the same. -/
structure Finding where
  value : Json
  objection : Option String := none

def programTarget : String := "lazyjira"

def selectorTarget : String := "lazyjira::selector"

/-! The commands. -/

def findConflicts (files : Files) (metadata : Path) (previous new fields : List String) :
    Except CommandFault Finding := do
  let metadata ← (IssueMetadata.atPath files metadata).mapError .metadata
  let report := metadata.conflicts fields previous new
  return { value := report.encode, objection := report.message? }

def optionList (options : List SelectOption) : Json :=
  .array (options.map SelectOption.codec.encode)

def findEvents (files : Files) (metadata : Option Path) (projects : List String) :
    Except CommandFault Finding := do
  let metadata ← metadata.mapM fun path => (IssueMetadata.atPath files path).mapError .metadata
  let value := Json.object
    [("events", optionList (eventOptions metadata projects)), ("self", optionList selfRoleOptions)]
  return { value := value.sortKeys }

def findInstances (configuration : Configuration) (connected : List String)
    (saved : Option String) : Finding :=
  let picker := configuration.instancePicker connected saved
  let value := Json.object
    [("label", .text picker.label), ("visible", .boolean picker.isVisible),
      ("selected", .ofOption .text picker.selected), ("options", optionList picker.options)]
  { value := value.sortKeys }

def EntityKind.flavour : EntityKind → Flavour
  | assignee => .assignee "" ""
  | transition => .transition "" ""
  | issue => .issue ""

def readOnlyRecord : Log.Record :=
  { level := .warn, message := "selector switched to read-only mode", fields := [] }

/-- What the log says of an event in a session. -/
def entryOf : Event → Option Log.Entry
  | .logged record => some { target := selectorTarget, record }
  | .errorChanged true => some { target := programTarget, record := readOnlyRecord }
  | _ => none

/-- The options that a selector shows; one in the error state has rejected its payload. -/
def optionsOf (session : Session α) : Except CommandFault Finding :=
  if session.selector.hasError then .error .rejected
  else .ok { value := optionList session.selector.options }

def readPayload (files : Files) (response : Path) : Except CommandFault Json :=
  match files response with
  | none => .error (.unreadable response)
  | some text => (Json.ofText text).mapError fun _ => .unsound response

def findOptions (files : Files) (configuration : Configuration) (kind : EntityKind)
    (response : Path) (query : String) : List Log.Entry × Except CommandFault Finding :=
  match readPayload files response with
  | .error fault => ([], .error fault)
  | .ok payload =>
      let session := (kind.flavour.withDebounce configuration.debounce).replay query payload
      (session.journal.filterMap entryOf, optionsOf session)

def Command.find (command : Command) (files : Files) (configuration : Configuration) :
    List Log.Entry × Except CommandFault Finding :=
  match command with
  | conflicts metadata previous new fields => ([], findConflicts files metadata previous new fields)
  | events metadata projects => ([], findEvents files metadata projects)
  | instances connected saved => ([], .ok (findInstances configuration connected saved))
  | options kind response query => findOptions files configuration kind response query

/-! The run. -/

/-- The filter for the log, and what is said of unsound directives: the user's own filter if it is
sound, or else the level that the invocation or the configuration gives. -/
def logFilter (surroundings : Surroundings) (invocation : Invocation)
    (configuration : Configuration) : Log.Filter × List String :=
  match surroundings.logFilter.bind Log.Filter.ofText? with
  | some filter => (filter, [])
  | none =>
      Log.Filter.ofTextLossy (if invocation.verbose then "debug" else configuration.logLevel)

def skipEntry (path : Path) : Log.Entry :=
  { target := programTarget
    record := { level := .warn, message := Configuration.skipWarning path, fields := [] } }

def logNotices (filter : Log.Filter) (entries : List Log.Entry) : List Notice :=
  (entries.filter filter.shows).map (.log ·.line)

def failure (notices : List Notice) (fault : CommandFault) : Outcome :=
  { succeeded := false, output := ""
    notices := notices ++ [.message ("Error: " ++ fault.message)] }

def success (notices : List Notice) (finding : Finding) : Outcome :=
  { succeeded := finding.objection.isNone
    output := finding.value.pretty ++ "\n"
    notices := notices ++ finding.objection.toList.map .message }

/-- The configuration of a run, and the files that were passed over on the way to it. -/
def configurationOf (surroundings : Surroundings) (invocation : Invocation) :
    Except ConfigurationFault (Configuration × List Path) :=
  match invocation.configuration with
  | some path => (Configuration.atPath surroundings.files path).map fun found => (found, [])
  | none => .ok (Configuration.load surroundings.files surroundings.places)

def Invocation.run (invocation : Invocation) (surroundings : Surroundings) : Outcome :=
  match configurationOf surroundings invocation with
  | .error fault => failure [] (.configuration fault)
  | .ok (configuration, skipped) =>
      let (filter, complaints) := logFilter surroundings invocation configuration
      let (entries, found) := invocation.command.find surroundings.files configuration
      let notices :=
        complaints.map Notice.message ++ logNotices filter (skipped.map skipEntry ++ entries)
      match found with
      | .error fault => failure notices fault
      | .ok finding => success notices finding

def versionText : String := "lazyjira 0.1.0\n"

/-- The outcome of a command line; none if the arguments do not fit. -/
def run (surroundings : Surroundings) (arguments : List String) : Option Outcome :=
  match Invocation.ofArguments arguments with
  | .ok invocation => some (invocation.run surroundings)
  | .error .version => some { succeeded := true, output := versionText, notices := [] }
  | .error .usage => none

/-- The files that a run may read. -/
def Invocation.paths (invocation : Invocation) (places : UserPlaces) : List Path :=
  let configuration := match invocation.configuration with
    | some path => [path]
    | none => places.candidates
  let inputs := match invocation.command with
    | .conflicts metadata .. => [metadata]
    | .events metadata .. => metadata.toList
    | .instances .. => []
    | .options _ response _ => [response]
  configuration ++ inputs

end IssueDesk.CommandLine
