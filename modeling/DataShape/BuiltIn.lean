import DataShape.BuiltIn.Arguments
import DataShape.BuiltIn.Console
import DataShape.BuiltIn.Json
import DataShape.BuiltIn.Toml

/-!
# Built-in tools

Stand-ins for the packages that the commands use, so that the program runs by itself. They follow
the documentation of those packages as far as plain use goes: a document is never nested too deeply,
lines are not wrapped, and there are no names for pictures. No theorem rests on them.

* `Parsers.builtIn`, `Terminal.builtIn`, `Tools.builtIn`.
-/

namespace DataShape

/-- The parsers of this library. -/
def Parsers.builtIn : Parsers
  | .toml, text =>
    match Toml.parse text with
    | .ok d => .ok d
    | .error .malformed => .error (.rejected "Invalid document")
    | .error .oversized => .error (.escaped .valueError)
  | .json, text =>
    match Json.parse text with
    | .ok d => .ok d
    | .error (.malformed what rest) => .error (.rejected (Json.message text what rest))
    | .error .oversized => .error (.escaped .valueError)

/-- A terminal without colours. -/
def Terminal.builtIn : Terminal where
  escape message := String.ofList (Console.escape message.toList)
  print markup := String.ofList (Console.display (Console.render markup.toList)) ++ "\n"
  width := 80

/-- The tools with which the program runs. -/
def Tools.builtIn : Tools where
  arguments args :=
    match Arguments.read false args with
    | some i => .ok i
    | none => .error 2
  parsers := .builtIn
  terminal := .builtIn

end DataShape
