import DataShape.Document.Load
import DataShape.Engine
import DataShape.Log

/-!
# The command line

* `Command`, `Invocation` — what the arguments ask for.
* `Terminal`, `Tools` — what the commands use of other packages: how arguments are understood, how
  texts are parsed, and how messages are printed.
* `Verdict` — the answer to a command: exit code, output, log, and what a library was shown.
* `tryCheck`, `Trial.verdict` — the command `check`: both documents are loaded, the selected part is
  checked, and what was raised decides the exit code.
* `Command.run` — the commands `check` and `types`, for a type table and a way to read files.
-/

namespace DataShape

/-- A command. -/
inductive Command where
  /-- List the names of the types. -/
  | types
  /-- Check a value of a document against a pattern document. -/
  | check (data pattern : String) (name key : Option String)
  deriving DecidableEq, Repr

/-- A command and whether its log is wanted. -/
structure Invocation where
  verbose : Bool
  command : Command
  deriving DecidableEq, Repr

/-! ## Tools -/

/-- A text in a style, by markup. -/
def styled (style text : String) : String := "[" ++ style ++ "]" ++ text ++ "[/" ++ style ++ "]"

/-- How texts are printed. -/
structure Terminal where
  /-- A text in which what looks like markup is marked as plain text. -/
  escape : String → String
  /-- What printing a text with markup shows, with its line ends and without colours. -/
  print : String → String
  /-- The length of a line. -/
  width : Nat

/-- What the documentation of a terminal says of plain words: in a colour, a word that fits a line
is shown as it is, on a line of its own. -/
structure Terminal.Documented (t : Terminal) : Prop where
  shows_word {colour word : String} : colour ∈ ["red", "yellow", "green"] →
    word.toList.all Char.isAlpha = true → word.length ≤ t.width →
    t.print (styled colour word) = word ++ "\n"
  /-- A line has room for more than a letter. -/
  two_le_width : 2 ≤ t.width

/-- What the commands use of other packages. -/
structure Tools where
  /-- What arguments ask for, or the exit code with which reading them ends: they are not
  understood, or ask for help. -/
  arguments : List String → Except Nat Invocation
  parsers : Parsers
  terminal : Terminal

/-! ## Answers -/

/-- The answer to a command. -/
structure Verdict where
  exit : Nat
  output : String
  log : List LogEntry
  seen : List Value

/-- The answer to a check that succeeds. -/
def Verdict.accepted (t : Terminal) : Verdict := ⟨0, t.print (styled "green" "OK"), [], []⟩

/-- The answer to a reported fault: the colour and the exit code tell who is to blame. -/
def Verdict.ofReport (t : Terminal) (r : Report) : Verdict :=
  match r.blame with
  | .pattern => ⟨1, t.print (styled "red" (t.escape r.message)), [], []⟩
  | .config => ⟨2, t.print (styled "yellow" (t.escape r.message)), [], []⟩

/-- How the check of a command went: what was logged and shown, and the fault if there is one. -/
structure Trial where
  log : List LogEntry
  seen : List Value
  result : Except Problem Unit

/-- A trial that ends before the check. -/
def Trial.ofFault (fault : LoadFault) : Trial := ⟨[], [], .error fault.problem⟩

/-- The name of the checked value: what is given, else its key. -/
def nameOr (name key : Option String) : Option String :=
  match name with
  | none | some "" => key
  | some name => some name

/-- Loads both documents and checks the selected part of the first against the second. -/
def tryCheck (parsers : Parsers) (T : TypeTable) (read : Reader) (data pattern : String)
    (name key : Option String) : Trial :=
  match loadDocument parsers read Document.firstId data with
  | .error fault => .ofFault fault
  | .ok (document, n) =>
    match loadPattern parsers read n pattern with
    | .error fault => .ofFault fault
    | .ok (p, _) =>
      let label := nameOr name key
      let r := Engine.check T (select document key) p label
      ⟨[.ofCheck label p], r.seen, r.result⟩

/-- The answer to a trial, or a fault that the command line does not report. -/
def Trial.verdict (terminal : Terminal) (t : Trial) : Except Problem Verdict :=
  match t.result with
  | .ok () => .ok { Verdict.accepted terminal with log := t.log, seen := t.seen }
  | .error (.reported r) => .ok { Verdict.ofReport terminal r with log := t.log, seen := t.seen }
  | .error p => .error p

/-- The answer to a command. -/
def Command.run (tools : Tools) (T : TypeTable) (read : Reader) :
    Command → Except Problem Verdict
  | .types => .ok ⟨0, String.join (T.names.map (· ++ "\n")), [], []⟩
  | .check data pattern name key =>
    (tryCheck tools.parsers T read data pattern name key).verdict tools.terminal

/-- The log that a command writes to the error channel. -/
def Invocation.errors (i : Invocation) (v : Verdict) : String :=
  if i.verbose then String.join (v.log.map fun e => e.short ++ "\n") else ""

end DataShape
