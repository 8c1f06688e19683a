import IssueDesk.Log.Record
import IssueDesk.Picker.InstancePicker
import IssueDesk.Tracker.Envelope

/-! The choice of projects of one instance, with a toggle for all of them. The list of projects is
loaded from the backend; from the beginning of a load to its end the picker shows no projects. -/

namespace IssueDesk

structure ProjectPicker where
  options : List SelectOption := []
  selected : List String := []
  loading : Bool := false
  error : Option String := none
  allProjects : Bool := false
  deriving DecidableEq, Repr

namespace ProjectPicker

def start (selected : List String) : ProjectPicker := { selected }

/-- The selection after a list of projects has come: an empty one becomes the default project. -/
def selectionWith (picker : ProjectPicker) (list : ProjectList) : List String :=
  match picker.selected, nonEmpty? list.defaultKey with
  | [], some key => [key]
  | selected, _ => selected

/-- Show a list of projects. The toggle is on when as many projects are selected as there are. -/
def applyProjects (picker : ProjectPicker) (list : ProjectList) : ProjectPicker :=
  let selected := picker.selectionWith list
  { picker with
    options := list.projects
    selected
    allProjects := !selected.isEmpty && selected.length == list.projects.length }

def beginLoad (picker : ProjectPicker) : ProjectPicker :=
  { picker with loading := true, error := none, options := [] }

def finishLoad (picker : ProjectPicker) (answer : Except CallFailure ProjectList) :
    ProjectPicker :=
  match answer with
  | .ok list => { picker.applyProjects list with loading := false }
  | .error failure => { picker with error := some failure.text, loading := false }

/-- A load from beginning to end. -/
def load (picker : ProjectPicker) (answer : Except CallFailure ProjectList) : ProjectPicker :=
  picker.beginLoad.finishLoad answer

def loadFailureRecord (instanceId : String) (failure : CallFailure) : Log.Record :=
  ⟨.error, "Failed to load project metadata: " ++ failure.text, [("instance_id", instanceId)]⟩

def setAllProjects (picker : ProjectPicker) (checked : Bool) : ProjectPicker :=
  { picker with
    allProjects := checked
    selected := if checked then picker.options.map (·.value) else [] }

def select (picker : ProjectPicker) (projects : List String) : ProjectPicker :=
  { picker with selected := projects }

def selectedOptions (picker : ProjectPicker) : List SelectOption :=
  picker.options.filter fun option => picker.selected.contains option.value

/-- The list is hidden while the toggle stands for it. -/
def isSelectorVisible (picker : ProjectPicker) : Bool := !picker.allProjects

/-- One thing that the host does with the picker. A load without an answer was given up. -/
inductive Operation where
  | load (instanceId : String) (answer : Option (Except CallFailure ProjectList))
  | applyProjects (list : ProjectList)
  | setAllProjects (checked : Bool)
  | select (projects : List String)

/-- The picker after an operation, with the calls it made and what is logged. -/
def perform (picker : ProjectPicker) :
    Operation → ProjectPicker × List BackendCall × List Log.Record
  | .load instanceId none => (picker.beginLoad, [.projects instanceId], [])
  | .load instanceId (some (.ok list)) => (picker.load (.ok list), [.projects instanceId], [])
  | .load instanceId (some (.error failure)) =>
      (picker.load (.error failure), [.projects instanceId],
        [loadFailureRecord instanceId failure])
  | .applyProjects list => (picker.applyProjects list, [], [])
  | .setAllProjects checked => (picker.setAllProjects checked, [], [])
  | .select projects => (picker.select projects, [], [])

end ProjectPicker

end IssueDesk
