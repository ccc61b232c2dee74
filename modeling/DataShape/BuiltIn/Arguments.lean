import DataShape.CommandLine

/-!
# Arguments

The arguments of the command line: `-v` before the command, then `types`, or `check` with the data
and its options, in any order.

* `Arguments.Shape`, `Arguments.shapeOf` — options, long or short, and plain arguments.
* `Arguments.readCheck`, `Arguments.read` — what arguments ask for, or nothing when they are not
  understood.
-/

namespace DataShape

namespace Arguments

/-- The options and arguments of a check that have been read. -/
structure Given where
  pattern : Option String
  name : Option String
  key : Option String
  data : List String
  deriving DecidableEq, Repr

namespace Given

/-- Nothing has been read. -/
def empty : Given := ⟨none, none, none, []⟩

/-- Sets an option by its letter. -/
def setShort (c : Char) (v : String) (g : Given) : Option Given :=
  match c with
  | 'p' => some { g with pattern := some v }
  | 'n' => some { g with name := some v }
  | 'k' => some { g with key := some v }
  | _ => none

/-- Sets an option by its long name. -/
def setLong (option : String) (v : String) (g : Given) : Option Given :=
  match option with
  | "--pattern" => g.setShort 'p' v
  | "--name" => g.setShort 'n' v
  | "--key" => g.setShort 'k' v
  | _ => none

end Given

/-- Splits an argument at its first equals sign. -/
def splitEquals (a : String) : String × Option String :=
  let cs := a.toList
  match cs.dropWhile (· != '=') with
  | [] => (a, none)
  | _ :: v => (String.ofList (cs.takeWhile (· != '=')), some (String.ofList v))

/-- The shapes of arguments. -/
inductive Shape where
  | endOfOptions
  | long (option : String) (value : Option String)
  | short (letter : Char) (rest : List Char)
  | plain
  deriving DecidableEq, Repr

/-- The shape of an argument. A single dash is plain. -/
def shapeOf (a : String) : Shape :=
  match a.toList with
  | ['-', '-'] => .endOfOptions
  | '-' :: '-' :: _ => let (option, v) := splitEquals a; .long option v
  | '-' :: c :: rest => .short c rest
  | _ => .plain

/-- Reads the options and arguments of a check, in any order. An option takes the next argument,
whatever it is, unless its value is attached. -/
def readCheck (g : Given) : List String → Option Given
  | [] => some g
  | a :: rest =>
    match shapeOf a with
    | .endOfOptions => some { g with data := g.data ++ rest }
    | .plain => readCheck { g with data := g.data ++ [a] } rest
    | .long option (some v) => (g.setLong option v).bind fun g => readCheck g rest
    | .short c (x :: xs) => (g.setShort c (String.ofList (x :: xs))).bind fun g => readCheck g rest
    | .long option none =>
      match rest with
      | v :: rest => (g.setLong option v).bind fun g => readCheck g rest
      | [] => none
    | .short c [] =>
      match rest with
      | v :: rest => (g.setShort c v).bind fun g => readCheck g rest
      | [] => none

/-- Reads the arguments of a command. -/
def readCommand : List String → Option Command
  | "types" :: [] | ["types", "--"] => some .types
  | "check" :: args =>
    match readCheck .empty args with
    | some ⟨some pattern, name, key, [data]⟩ => some (.check data pattern name key)
    | _ => none
  | _ => none

/-- Reads the options before the command. -/
def read (verbose : Bool) : List String → Option Invocation
  | [] => none
  | a :: rest =>
    match shapeOf a with
    | .endOfOptions => (readCommand rest).map (Invocation.mk verbose)
    | .plain => (readCommand (a :: rest)).map (Invocation.mk verbose)
    | .long option v => if option = "--verbose" ∧ v = none then read true rest else none
    | .short c cs => if (c :: cs).all (· == 'v') then read true rest else none

end Arguments

end DataShape
