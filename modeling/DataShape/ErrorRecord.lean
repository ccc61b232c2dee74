import DataShape.Fault

/-!
# Error records

The four fields of a reported error, for errors that a caller makes as well as for reports. Model of
`SuperSchemaError`, `ConfigError` and `PatternError` with `to_dict`.

* `ErrorRecord.make` — the record of the given arguments, if their number is right.
* `Report.record` — the record of a report.
-/

namespace DataShape

/-- The classes of errors: the general one takes all fields, the others know code and status. -/
inductive ErrorClass where
  | general
  | ofBlame (blame : Blame)
  deriving DecidableEq, Repr

/-- The fields of an error. -/
structure ErrorRecord where
  message : Value
  code : Value
  status : Value
  path : Value

namespace ErrorRecord

/-- The record of an error of known blame. -/
def ofBlame (blame : Blame) (message path : Value) : ErrorRecord :=
  ⟨message, .string blame.code, .integer blame.status, path⟩

/-- The record of an error made from arguments; the path comes last and may be left out. -/
def make : ErrorClass → List Value → Option ErrorRecord
  | .general, [message, code, status] => some ⟨message, code, status, .null⟩
  | .general, [message, code, status, path] => some ⟨message, code, status, path⟩
  | .ofBlame blame, [message] => some (ofBlame blame message .null)
  | .ofBlame blame, [message, path] => some (ofBlame blame message path)
  | _, _ => none

end ErrorRecord

/-- The record of a report. -/
def Report.record (r : Report) : ErrorRecord :=
  .ofBlame r.blame (.string r.message) (match r.path with
    | some path => .string path
    | none => .null)

end DataShape
