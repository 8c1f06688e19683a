import IssueDesk.Log.Record
import IssueDesk.Text.Character

/-! Which records are shown. A filter is a text of directives with commas between them. A directive
gives a level, for all records or for those of a target; of several that fit a record, the one that
says most about it counts. Without any directive only errors are shown.

The forms of a directive are a level; a target, of which everything is shown; a target and a level
with an equals sign between them. Between the two a part in square brackets can say that the record
has to have a field, in braces, or has to stand in a named span. No record of this library stands in
a span, so a directive that asks for one, or for a value of a field, never shows anything. -/

namespace IssueDesk.Log

/-- Everything up to a level is shown, or nothing. -/
inductive Threshold where
  | off
  | upTo (level : Level)
  deriving DecidableEq, Repr

def Threshold.shows (threshold : Threshold) (level : Level) : Bool :=
  match threshold with
  | off => false
  | upTo most => level.rank ≤ most.rank

structure Directive where
  target : Option String
  field : Option String
  needsSpan : Bool
  threshold : Threshold
  deriving DecidableEq, Repr

/-- Why a text is no directive. -/
inductive DirectiveFault where
  | form
  | level
  deriving DecidableEq, Repr

def DirectiveFault.message : DirectiveFault → String
  | form => "invalid filter directive"
  | level =>
      "error parsing level filter: expected one of \"off\", \"error\", \"warn\", \"info\", " ++
        "\"debug\", \"trace\", or a number 0-5"

namespace Threshold

def ofNumber? : Nat → Option Threshold
  | 0 => some off
  | 1 => some (upTo .error)
  | 2 => some (upTo .warn)
  | 3 => some (upTo .info)
  | 4 => some (upTo .debug)
  | 5 => some (upTo .trace)
  | _ => none

def named : List (String × Threshold) :=
  [("off", off), ("error", upTo .error), ("warn", upTo .warn), ("info", upTo .info),
    ("debug", upTo .debug), ("trace", upTo .trace)]

def withoutPlus : List Char → List Char
  | '+' :: rest => rest
  | cs => cs

/-- A level is written as its rank, or as its name in letters of either case. -/
def ofChars? (cs : List Char) : Option Threshold :=
  let digits := withoutPlus cs
  if !digits.isEmpty && digits.all Char.isDigit then
    ofNumber? (digits.foldl (fun n c => 10 * n + (c.toNat - '0'.toNat)) 0)
  else named.lookup (String.ofList (cs.map Char.toLower))

end Threshold

namespace Directive

/-- A directive begins with a letter or digit of any script, or one of three signs. -/
def canBegin (c : Char) : Bool :=
  c.isAlphanum || c == '-' || c == ':' || c == '_' || 128 ≤ c.toNat

/-- The level after the equals sign. Without one everything is shown. -/
def readLevel (target field : Option String) (needsSpan : Bool) (cs : List Char) :
    Except DirectiveFault Directive :=
  if cs.isEmpty then .ok ⟨target, field, needsSpan, .upTo .trace⟩
  else
    match Threshold.ofChars? cs with
    | some threshold => .ok ⟨target, field, needsSpan, threshold⟩
    | none => .error .level

/-- What follows the part in square brackets. -/
def afterBrackets (target field : Option String) (needsSpan : Bool) :
    List Char → Except DirectiveFault Directive
  | [] => .ok ⟨target, field, needsSpan, .upTo .trace⟩
  | '=' :: rest => readLevel target field needsSpan rest
  | _ => .error .form

/-- The part in square brackets, from behind the opening one. -/
def readBrackets (target : Option String) (cs : List Char) : Except DirectiveFault Directive :=
  let inSpan := fun c => c != ']' && c != '\x7b'
  let name := cs.takeWhile inSpan
  match cs.dropWhile inSpan with
  | ']' :: rest => afterBrackets target none true rest
  | '\x7b' :: rest =>
      let field := rest.takeWhile (· != '\x7d')
      match field, rest.dropWhile (· != '\x7d') with
      | [], _ => .error .form
      | field, '\x7d' :: ']' :: rest =>
          let label := field.takeWhile (· != '=')
          afterBrackets target (some (String.ofList label))
            (!name.isEmpty || label.length != field.length) rest
      | _, _ => .error .form
  | _ => .error .form

def endsName (c : Char) : Bool := c == '=' || c == '['

/-- A directive from its first character on. -/
def readName (cs : List Char) : Except DirectiveFault Directive :=
  let name := cs.takeWhile (!endsName ·)
  match cs.dropWhile (!endsName ·) with
  | '=' :: rest => readLevel (some (String.ofList name)) none false rest
  | '[' :: rest => readBrackets (some (String.ofList name)) rest
  | _ =>
      match Threshold.ofChars? name with
      | some threshold => .ok ⟨none, none, false, threshold⟩
      | none => .ok ⟨some (String.ofList name), none, false, .upTo .trace⟩

/-- Blanks around a directive spoil it: with an equals sign or brackets its level cannot be read,
and without them it is a target that no record has. -/
def ofText (text : String) : Except DirectiveFault Directive :=
  let cs := text.toList
  let trimmed := Text.trimChars cs
  match trimmed with
  | [] => .error .form
  | c :: rest =>
      if c = '[' then
        if trimmed = cs then readBrackets none rest else .error .form
      else if !canBegin c then .error .form
      else if trimmed = cs then readName cs
      else if trimmed.any endsName then .error .level
      else .ok ⟨some text, none, false, .upTo .trace⟩

def fits (directive : Directive) (entry : Entry) : Bool :=
  !directive.needsSpan && directive.target.all (fun target => entry.target.startsWith target) &&
    directive.field.all fun field => entry.record.fields.any (·.1 == field)

/-- How much a directive says of a record. A longer target says more, then a field. -/
def weight (directive : Directive) : List Nat :=
  let target := match directive.target with
    | none => 0
    | some target => target.utf8ByteSize + 1
  match directive.field with
  | none => [target]
  | some field => target :: field.toList.map Char.toNat

/-- Of two directives the one that says more, or the later one. -/
def weightier (former : Option Directive) (later : Directive) : Option Directive :=
  match former with
  | none => some later
  | some former => if later.weight < former.weight then some former else some later

end Directive

abbrev Filter := List Directive

namespace Filter

def errorsOnly : Filter := [⟨none, none, false, .upTo .error⟩]

def orErrorsOnly (filter : Filter) : Filter := if filter.isEmpty then errorsOnly else filter

/-- The texts of the directives in a text. -/
def parts (text : String) : List String :=
  (text.splitOn ",").filter (!·.isEmpty)

/-- The filter that a text describes, if each directive in it is sound. -/
def ofText? (text : String) : Option Filter :=
  ((parts text).mapM fun part => (Directive.ofText part).toOption).map orErrorsOnly

/-- The sound directives in a text, and what is said of the others. -/
def ofTextLossy (text : String) : Filter × List String :=
  let read := (parts text).map fun part => (part, Directive.ofText part)
  (orErrorsOnly (read.filterMap fun (_, directive) => directive.toOption),
    read.filterMap fun (part, directive) =>
      match directive with
      | .ok _ => none
      | .error fault => some ("ignoring \x60" ++ part ++ "\x60: " ++ fault.message))

def shows (filter : Filter) (entry : Entry) : Bool :=
  match (filter.filter (·.fits entry)).foldl Directive.weightier none with
  | some directive => directive.threshold.shows entry.record.level
  | none => false

end Filter

end IssueDesk.Log
