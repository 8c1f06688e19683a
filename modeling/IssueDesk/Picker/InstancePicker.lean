import IssueDesk.Tracker.Entity

/-! The choice of an instance. A saved subscription keeps the instance it was made for. -/

namespace IssueDesk

/-- A text that says something. -/
def nonEmpty? (text : Option String) : Option String := text.filter (!·.isEmpty)

theorem nonEmpty?_eq_some_iff {text : Option String} {s : String} :
    nonEmpty? text = some s ↔ text = some s ∧ s ≠ "" := by
  simp [nonEmpty?, Option.filter_eq_some_iff]

/-- The instance to start with: the saved one, else the only connected one, else the default of the
user. -/
def startingInstance (saved : Option String) (connected : List Instance)
    (userDefault : Option String) : Option String :=
  match nonEmpty? saved, connected with
  | some saved, _ => some saved
  | none, [only] => some only.id
  | none, _ => nonEmpty? userDefault

structure InstancePicker where
  installed : List Instance
  connected : List Instance
  selected : Option String
  locked : Bool
  deriving DecidableEq, Repr

namespace InstancePicker

def start (installed connected : List Instance) (saved userDefault : Option String) :
    InstancePicker :=
  { installed, connected
    selected := startingInstance saved connected userDefault
    locked := (nonEmpty? saved).isSome }

/-- There is a choice to be made. -/
def isVisible (picker : InstancePicker) : Bool :=
  1 < picker.connected.length && 1 < picker.installed.length

def label (picker : InstancePicker) : String :=
  if picker.locked then "Instance (saved)" else "Instance"

def options (picker : InstancePicker) : List SelectOption := picker.installed.map Instance.option

/-- Select an instance; the second component tells whether the selection changed. -/
def select (picker : InstancePicker) (id : String) : InstancePicker × Bool :=
  if picker.locked || picker.selected == some id then (picker, false)
  else ({ picker with selected := some id }, true)

end InstancePicker

end IssueDesk
