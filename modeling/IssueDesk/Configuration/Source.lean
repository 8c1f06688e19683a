import IssueDesk.Files
import IssueDesk.Picker.InstancePicker
import IssueDesk.Toml.Document
import IssueDesk.Wire.Codec

/-! The configuration of a user: how long a search waits for the next keystroke, how much is logged,
and the instances of the tracker with the one to start on. Every setting has a default. The text of
a configuration is a settings file in which unknown keys count for nothing.

A file that is named has to be readable and sound. Otherwise the first sound file among the usual
places counts, with a warning for each file before it that is not sound; where there is none the
defaults hold. -/

namespace IssueDesk

open Wire

structure Configuration where
  debounce : Nat
  logLevel : String
  instances : List Instance
  defaultInstance : Option String
  deriving DecidableEq, Repr

namespace Configuration

/-- The general settings, on their own in a table: the quiet period in milliseconds and the level of
logging. -/
def generalCodec : Codec (Nat × String) :=
  .record "general settings"
    (.cons (.withDefault "search_debounce_ms" .count 400) <|
      .cons (.withDefault "log_level" .text "info") .nil)
    (fun (debounce, logLevel, _) => (debounce, logLevel))
    (fun (debounce, logLevel) => (debounce, logLevel, ()))

def codec : Codec Configuration :=
  .record "configuration"
    (.cons (.withDefault "settings" generalCodec (400, "info")) <|
      .cons (.withDefault "instances" Instance.codec.list []) <|
      .cons (.optional "default_instance" .text) .nil)
    (fun ((debounce, logLevel), instances, defaultInstance, _) =>
      { debounce, logLevel, instances, defaultInstance })
    (fun c => ((c.debounce, c.logLevel), c.instances, c.defaultInstance, ()))

def standard : Configuration :=
  { debounce := 400, logLevel := "info", instances := [], defaultInstance := none }

/-- The configuration that a text holds. -/
def ofText? (text : String) : Option Configuration := do
  let value ← Toml.ofText text
  (codec.decode .settings value.document).toOption

/-- The picker over the configured instances, with those connected that have a connected id. -/
def instancePicker (configuration : Configuration) (connected : List String)
    (saved : Option String) : InstancePicker :=
  .start configuration.instances (configuration.instances.filter (·.id ∈ connected)) saved
    configuration.defaultInstance

/-- The configuration in a named file. -/
def atPath (files : Files) (path : Path) : Except ConfigurationFault Configuration :=
  files.decodeAt ofText? path

/-- The configuration in the usual places, and the files there that are not sound. -/
def load (files : Files) (places : UserPlaces) : Configuration × List Path :=
  files.firstOf ofText? standard places.candidates

/-- What is said of a file that is passed over. The words in which the reader of the settings says
why, which would follow after a colon, are left out. -/
def skipWarning (path : Path) : String := "Ignoring invalid config " ++ path

end Configuration

end IssueDesk
