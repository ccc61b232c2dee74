import DataShape.Value.Text

/-!
# Faults

What can be wrong, and where.

* `Step`, `stepsText` — the way from the checked value to a part of it, relative to its name.
* `Defect` — faults of a pattern or of the setup; `Mismatch` — faults of a value.
* `Failure` — how a check ends when it does not succeed. It holds causes and relative steps only:
  the name of the checked value enters in `Failure.problem`.
* `Report`, `Problem` — the fault as a caller sees it, with message and path.
-/

namespace DataShape

/-! ## Places -/

/-- One step from a value or pattern to a part of it. -/
inductive Step where
  | field (key : String)
  | index (i : Nat)
  /-- From an observable to its contents. -/
  | call
  /-- From an array pattern to the pattern of its elements. -/
  | elements
  deriving DecidableEq, Repr

/-- The text of a step. -/
def Step.text : Step → String
  | .field key => "." ++ key
  | .index i => "[" ++ natText i ++ "]"
  | .call => "()"
  | .elements => "[]"

/-- The text of a way, to be put after the name of the value where it starts. -/
def stepsText : List Step → String
  | [] => ""
  | s :: rest => s.text ++ stepsText rest

/-! ## Causes -/

/-- Faults of a pattern or of the setup, not of the data. -/
inductive Defect where
  | unknownType (type : Value)
  /-- A string pattern that is not in the grammar. -/
  | malformed (source : String)
  | allowedNotArray
  | keyNotString (key : Value)
  | notAPattern (v : Value)
  /-- There is no library that could tell observables. -/
  | noLibrary

/-- Faults of the data. -/
inductive Mismatch where
  | mandatory
  | notNullable
  | notOfKind (kind : Kind)
  | notObservable
  | notAllowed
  deriving DecidableEq, Repr

/-- A defect and the place in the pattern where it is reported; a defect inside a string pattern
has none. -/
structure Finding where
  defect : Defect
  steps : Option (List Step)

/-- A defect of the pattern itself. -/
def Finding.here (d : Defect) : Finding := ⟨d, some []⟩

/-- A defect inside a string pattern. -/
def Finding.nowhere (d : Defect) : Finding := ⟨d, none⟩

/-- A finding of a part, seen from the whole. -/
def Finding.under (s : Step) (f : Finding) : Finding := { f with steps := f.steps.map (s :: ·) }

/-- Uses of a value for what it cannot do. The error of the language names the class of the
value. -/
inductive Misuse where
  | notCallable (className : String)
  | notIterable (className : String)
  /-- A library was asked that has no predicate. -/
  | noPredicate (className : String)
  deriving DecidableEq, Repr

/-- Why a check does not succeed. -/
inductive Failure where
  | defect (finding : Finding)
  | mismatch (cause : Mismatch) (steps : List Step)
  /-- A library or an observable has raised an error of its own. -/
  | raised (message : String)
  | misuse (m : Misuse)

/-- A failure of a part, seen from the whole. -/
def Failure.under (s : Step) : Failure → Failure
  | .defect f => .defect (f.under s)
  | .mismatch m steps => .mismatch m (s :: steps)
  | .raised message => .raised message
  | .misuse m => .misuse m

/-! ## Wording -/

/-- The message of a defect. -/
def Defect.message : Defect → String
  | .unknownType type => "Unknown type: " ++ type.text
  | .malformed source => "Invalid pattern: " ++ source
  | .allowedNotArray =>
    "Invalid pattern: the __allowedValues property always has to be an array!"
  | .keyNotString key => "Invalid pattern: field key " ++ key.shown ++ " is not a string!"
  | .notAPattern v => "Invalid pattern: " ++ v.text
  | .noLibrary => "Observable checking is not possible because no knockout instance is given!"

/-- Whether the message of a defect can be written: the values that it mentions can be shown. -/
def Defect.isShowable : Defect → Bool
  | .unknownType v | .keyNotString v | .notAPattern v => v.isShowable
  | .malformed _ | .allowedNotArray | .noLibrary => true

/-- The message of a misuse. -/
def Misuse.message : Misuse → String
  | .notCallable className => "'" ++ className ++ "' object is not callable"
  | .notIterable className => "'" ++ className ++ "' object is not iterable"
  | .noPredicate className => "'" ++ className ++ "' object has no attribute 'is_observable'"

/-- What a mismatch says around the path: the text before and after it. -/
def Mismatch.around : Mismatch → String × String
  | .mandatory => ("", " is mandatory!")
  | .notNullable => ("", " shouldn't be null!")
  | .notOfKind .array => ("", " has to be an array!")
  | .notOfKind .date => ("", " has to be a date object!")
  | .notOfKind kind => ("", " should have " ++ kind.name ++ " type!")
  | .notObservable => ("", " has to be an observable!")
  | .notAllowed => ("The value of ", " is not among the allowed ones!")

/-- The message of a mismatch at a path. -/
def Mismatch.message (m : Mismatch) (path : String) : String := m.around.1 ++ path ++ m.around.2

/-! ## Reports -/

/-- Whether the setup or the data is at fault. -/
inductive Blame where
  | config
  | pattern
  deriving DecidableEq, Repr

/-- The code of a kind of fault. -/
def Blame.code : Blame → String
  | .config => "INVALID_CONFIG"
  | .pattern => "INVALID_INPUT_PATTERN"

/-- The status number of a kind of fault. -/
def Blame.status : Blame → Int
  | .config => 500
  | .pattern => 400

/-- A fault as it is reported to a caller. -/
structure Report where
  blame : Blame
  message : String
  path : Option String
  deriving DecidableEq, Repr

/-- What a caller can be confronted with. -/
inductive Problem where
  | reported (r : Report)
  | raised (message : String)
  | misuse (m : Misuse)
  /-- A file is not valid text. -/
  | notText
  /-- An integer has too many digits to be read or written, or a path a null character. -/
  | badValue
  /-- A document is nested too deeply to be read. -/
  | tooDeep
  deriving DecidableEq, Repr

/-- A fault of the setup without a place. -/
def Problem.config (message : String) : Problem := .reported ⟨.config, message, none⟩

/-- A defect at a path. -/
def Defect.problem (d : Defect) (path : Option String) : Problem :=
  if d.isShowable then .reported ⟨.config, d.message, path⟩ else .badValue

/-- A finding in the pattern for a value with the given name. -/
def Finding.problem (name : String) (f : Finding) : Problem :=
  f.defect.problem (f.steps.map fun s => name ++ stepsText s)

/-- A failure in the check of a value with the given name. -/
def Failure.problem (name : String) : Failure → Problem
  | .defect f => f.problem name
  | .mismatch m steps =>
    let path := name ++ stepsText steps
    .reported ⟨.pattern, m.message path, some path⟩
  | .raised message => .raised message
  | .misuse m => .misuse m

/-- The name of a value that is given none. -/
def defaultName : String := "configObject"

/-- The name under which a value is checked. -/
def labelOf : Option String → String
  | none | some "" => defaultName
  | some name => name

end DataShape
