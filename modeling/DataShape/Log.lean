import DataShape.Registration

/-!
# Log entries

* `LogEntry` — a line of the log: its level, the part of the program that writes it, and the text.
* `LogEntry.ofCheck`, `LogEntry.ofRegistration` — the entries that checks and registrations write.
-/

namespace DataShape

/-- An entry of the log. -/
structure LogEntry where
  level : String
  source : String
  message : String
  deriving DecidableEq, Repr

namespace LogEntry

/-- An entry with its level in front. -/
def full (e : LogEntry) : String := e.level ++ " " ++ e.source ++ ": " ++ e.message

/-- An entry without its level. -/
def short (e : LogEntry) : String := e.source ++ ": " ++ e.message

/-- What a check writes before it verifies the pattern. -/
def ofCheck (name : Option String) (pattern : Value) : LogEntry :=
  ⟨"DEBUG", "superschema.engine",
    "Checking " ++ labelOf name ++ " against " ++ pattern.shown⟩

/-- What a registration writes when it succeeds with the given library. -/
def ofRegistration (library : Value) : LogEntry :=
  ⟨"INFO", "superschema.integration",
    "Registered reactive library " ++ library.shown ++ " for observable checks"⟩

end LogEntry

end DataShape
