import DataShape.BuiltIn

/-!
# The program

Reads the arguments, the two files of a check, and prints the answer. All decisions are taken by
`Command.run`, with the built-in tools.
-/

namespace DataShape

/-- The system error with a number, which may come negated. -/
def ReadFault.ofCode (code : UInt32) (details : String) : ReadFault :=
  let number := if code.toNat < 0x80000000 then code.toNat else 0x100000000 - code.toNat
  match [notFound, notDirectory, isDirectory, nameTooLong].find? (·.number == number) with
  | some fault => fault
  | none => ⟨number, details⟩

/-- The system error behind a failed reading. -/
def ReadFault.ofError : IO.Error → ReadFault
  | .noFileOrDirectory .. => .notFound
  | .inappropriateType _ code details => .ofCode code details
  | .permissionDenied _ code details => .ofCode code details
  | .invalidArgument _ code details => .ofCode code details
  | .otherError code details => .ofCode code details
  | e => ⟨5, toString e⟩

/-- The files that a command reads. -/
def Command.paths : Command → List FilePath
  | .types => []
  | .check data pattern _ _ => [.ofString data, .ofString pattern]

/-- A reader that knows the given files. -/
def readerOf (known : List (FilePath × Except ReadFault ByteArray)) : Reader := fun path =>
  (known.lookup path).getD (.error .notFound)

/-- Reads files. -/
def readAll (paths : List FilePath) : IO (List (FilePath × Except ReadFault ByteArray)) :=
  paths.mapM fun path => do
    let content ← (IO.FS.readBinFile path.text).toBaseIO
    return (path, match content with
      | .ok bytes => .ok bytes
      | .error e => .error (.ofError e))

/-- What is said of a fault that is not reported. -/
def Problem.notice : Problem → String
  | .reported r => r.message
  | .raised message => message
  | .misuse m => m.message
  | .notText => "a file is not valid UTF-8"
  | .badValue => "an integer has too many digits, or a path has a null character"
  | .tooDeep => "a document is nested too deeply"

end DataShape

open DataShape

/-- Runs a command: the exit code tells whether the value conforms. -/
def main (args : List String) : IO UInt32 := do
  match Tools.builtIn.arguments args with
  | .error exit =>
    IO.eprintln "usage: [-v] (types | check DATA -p PATTERN [-n NAME] [-k KEY])"
    return exit.toUInt32
  | .ok i =>
    let read := readerOf (← readAll i.command.paths)
    match i.command.run .builtIn .standard read with
    | .ok v =>
      IO.eprint (i.errors v)
      IO.print v.output
      return v.exit.toUInt32
    | .error p =>
      IO.eprintln p.notice
      return 1
