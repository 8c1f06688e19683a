/-! The arguments of a command line. A parameter has a long name and may have a short one; it is a
flag, takes one value, or takes values as often as it is given. A value follows as the next
argument, or after an equals sign, or right behind the short name; as an argument of its own it must
not look like another parameter. Short names can stand together behind one dash. Values are never
counted by position, so any other argument has to be the name of a command, where commands are
expected.

Arguments are taken in order, and the first thing that settles the outcome decides: asking for the
version, or something that does not fit. -/

namespace IssueDesk.CommandLine

inductive Arity where
  | version
  | flag
  | one
  | several
  deriving DecidableEq, Repr

structure Parameter where
  long : String
  short : Option Char := none
  arity : Arity
  accepts : String → Bool := fun _ => true

def Parameter.takesValue (parameter : Parameter) : Bool :=
  parameter.arity = .one || parameter.arity = .several

/-- What can be given in one place: the parameters, and the commands that may end it. -/
structure Grammar where
  parameters : List Parameter
  commands : List String

/-- A parameter that was given, with its value, which is empty for a flag. -/
structure Given where
  parameter : String
  value : String
  deriving DecidableEq, Repr

/-- Why there is nothing to run: the version was asked for, or the arguments do not fit. -/
inductive Refusal where
  | version
  | usage
  deriving DecidableEq, Repr

/-- One argument taken apart: what it gives, in order, and the parameter that waits for the next
argument as its value. An unknown name is given as nothing. -/
structure Argument where
  gives : List (Option (Parameter × String))
  wants : Option Parameter

def unknown : Argument := ⟨[none], none⟩

/-- A parameter with a value that is attached to it, if there is one. -/
def attach (parameter : Parameter) (value : Option String) : Argument :=
  match parameter.takesValue, value with
  | true, some value => ⟨[some (parameter, value)], none⟩
  | true, none => ⟨[], some parameter⟩
  | false, none => ⟨[some (parameter, "")], none⟩
  | false, some _ => unknown

def longArgument (grammar : Grammar) (cs : List Char) : Argument :=
  let name := String.ofList (cs.takeWhile (· != '='))
  let value := match cs.dropWhile (· != '=') with
    | '=' :: value => some (String.ofList value)
    | _ => none
  match grammar.parameters.find? (·.long == name) with
  | some parameter => attach parameter value
  | none => unknown

/-- The value behind a short name, without an equals sign before it. -/
def shortValue : List Char → Option String
  | [] => none
  | '=' :: value => some (String.ofList value)
  | value => some (String.ofList value)

def shortArgument (grammar : Grammar) : List Char → Argument
  | [] => ⟨[], none⟩
  | c :: rest =>
      match grammar.parameters.find? (·.short == some c) with
      | none => unknown
      | some parameter =>
          if parameter.takesValue then attach parameter (shortValue rest)
          else
            let others := shortArgument grammar rest
            { others with gives := some (parameter, "") :: others.gives }

/-- Whether an argument can be the value of the parameter before it. -/
def isValue (argument : String) : Bool :=
  match argument.toList with
  | ['-'] => true
  | '-' :: _ => false
  | _ => true

def takeApart (grammar : Grammar) (argument : String) : Argument :=
  match argument.toList with
  | '-' :: '-' :: rest => longArgument grammar rest
  | ['-'] => unknown
  | '-' :: rest => shortArgument grammar rest
  | _ => unknown

/-- Add one given parameter to those before it. -/
def enter (given : List Given) : Option (Parameter × String) → Except Refusal (List Given)
  | none => .error .usage
  | some (parameter, value) =>
      match parameter.arity with
      | .version => .error .version
      | .several =>
          if parameter.accepts value then .ok (given ++ [⟨parameter.long, value⟩])
          else .error .usage
      | .flag | .one =>
          if given.any (·.parameter == parameter.long) || !parameter.accepts value then
            .error .usage
          else .ok (given ++ [⟨parameter.long, value⟩])

/-- What was given, and the command that ended it with the arguments after the command. -/
structure Scan where
  given : List Given
  command : Option (String × List String)
  deriving DecidableEq, Repr

/-- Take the arguments in order. Two dashes alone say that no more parameters come. -/
def scan (grammar : Grammar) (given : List Given) : List String → Except Refusal Scan
  | [] => .ok ⟨given, none⟩
  | argument :: rest =>
      if argument ∈ grammar.commands then .ok ⟨given, some (argument, rest)⟩
      else if argument = "--" then if rest.isEmpty then .ok ⟨given, none⟩ else .error .usage
      else do
        let parts := takeApart grammar argument
        let given ← parts.gives.foldlM enter given
        match parts.wants with
        | none => scan grammar given rest
        | some parameter =>
            match rest with
            | [] => .error .usage
            | value :: rest =>
                if isValue value then do
                  let given ← enter given (some (parameter, value))
                  scan grammar given rest
                else .error .usage

/-- The value of a parameter that is given at most once. -/
def valueOf (given : List Given) (parameter : String) : Option String :=
  (given.find? (·.parameter == parameter)).map (·.value)

/-- The values of a parameter that takes several, each split at the commas. -/
def valuesOf (given : List Given) (parameter : String) : List String :=
  (given.filter (·.parameter == parameter)).flatMap (·.value.splitOn ",")

end IssueDesk.CommandLine
