import IssueDesk.CommandLine.Outcome

/-! The program around the library: it reads the files that the command line may need, asks for the
outcome and shows it. -/

namespace IssueDesk.CommandLine

/-- The text of a file, if it can be read. -/
def readText (path : Path) : IO (Option String) := do
  try
    return some (← IO.FS.readFile path)
  catch _ =>
    return none

def readFiles (paths : List Path) : IO Files := do
  let texts ← paths.mapM fun path => do return (path, ← readText path)
  return fun path => (texts.lookup path).join

/-- The surroundings of a command line: what the user has set, and the files it may need. -/
def surroundingsFor (arguments : List String) : IO Surroundings := do
  let places : UserPlaces :=
    { home := ← IO.getEnv "HOME", configHome := ← IO.getEnv "XDG_CONFIG_HOME" }
  let paths := match Invocation.ofArguments arguments with
    | .ok invocation => invocation.paths places
    | .error _ => []
  return { files := ← readFiles paths, places, logFilter := ← IO.getEnv "RUST_LOG" }

def usage : String :=
  "usage: lazyjira [-c FILE] [-v] conflicts|events|instances|options [parameters]"

def Notice.text : Notice → String
  | log text => text
  | message text => text

/-- Carry out a command line. The exit status is 2 for arguments that do not fit and 1 for a run
that failed. -/
def execute (arguments : List String) : IO UInt32 := do
  let surroundings ← surroundingsFor arguments
  match run surroundings arguments with
  | none =>
      IO.eprintln usage
      return 2
  | some outcome =>
      IO.print outcome.output
      outcome.notices.forM fun notice => IO.eprintln notice.text
      return if outcome.succeeded then 0 else 1

end IssueDesk.CommandLine

def main (arguments : List String) : IO UInt32 := IssueDesk.CommandLine.execute arguments
