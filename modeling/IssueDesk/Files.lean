/-! Files as the library sees them. A file can be read as text or it cannot: it is missing, it is no
file, or its content is not text. A file that is named has to be readable and sound. Of several that
are tried the first sound one counts: one that cannot be read is passed over in silence, one that is
not sound is reported. -/

namespace IssueDesk

abbrev Path := String

/-- What can be read at a path. -/
abbrev Files := Path → Option String

namespace Path

def isAbsolute (path : Path) : Bool := path.startsWith "/"

/-- A path below a directory. -/
def below (directory : Path) (name : String) : Path :=
  if directory.isEmpty || directory.endsWith "/" then directory ++ name
  else directory ++ "/" ++ name

end Path

/-- Why a named file gives no configuration. -/
inductive ConfigurationFault where
  | unreadable (path : Path)
  | unsound (path : Path)
  deriving DecidableEq, Repr

def ConfigurationFault.message : ConfigurationFault → String
  | unreadable path => "Failed to read config " ++ path
  | unsound path => "Invalid config " ++ path

/-- The file at a path, decoded. -/
def Files.decodeAt (files : Files) (decode : String → Option α) (path : Path) :
    Except ConfigurationFault α :=
  match files path with
  | none => .error (.unreadable path)
  | some text =>
      match decode text with
      | none => .error (.unsound path)
      | some value => .ok value

/-- The first file that can be read and decoded, or else the given value, with the paths of the
files before it that can be read and not decoded. -/
def Files.firstOf (files : Files) (decode : String → Option α) (otherwise : α) :
    List Path → α × List Path
  | [] => (otherwise, [])
  | path :: rest =>
      match files path with
      | none => files.firstOf decode otherwise rest
      | some text =>
          match decode text with
          | some value => (value, [])
          | none =>
              let (value, skipped) := files.firstOf decode otherwise rest
              (value, path :: skipped)

/-- The directories that hold the files of a user. -/
structure UserPlaces where
  home : Option Path
  configHome : Option Path

namespace UserPlaces

/-- The directory for configuration: the one that is set, if it is an absolute path. -/
def configDirectory (places : UserPlaces) : Option Path :=
  match places.configHome.filter Path.isAbsolute with
  | some directory => some directory
  | none => places.home.map (·.below ".config")

/-- The usual places of the configuration, the first to be tried first. -/
def candidates (places : UserPlaces) : List Path :=
  (places.home.map (·.below ".config/lazyjira/config.toml")).toList ++
    (places.configDirectory.map (·.below "lazyjira/config.toml")).toList ++
    (places.home.map (·.below ".lazyjira.toml")).toList

end UserPlaces

end IssueDesk
