import DataShape.Document
import DataShape.Fault
import DataShape.FileStore
import DataShape.Text.LowerCase

/-!
# Loading documents

* `Parsers` — how texts are parsed in each format, with the ways in which a parser fails.
* `parseDocument` — `parse_document`: the document that a text spells in the format of a suffix.
* `loadDocument`, `loadPattern` — `load_document` and `load_pattern`: a document or a pattern from a
  file. A table with the key `pattern` stands for the pattern under that key.
* `select` — the part of a document under a dotted key, `missing` where it is not there.

How files are read and how texts are parsed are parameters.
-/

namespace DataShape

/-! ## Parsers -/

/-- The formats of documents. -/
inductive Format where
  | toml
  | json
  deriving DecidableEq, Repr

/-- The format that a suffix stands for. -/
def Format.ofSuffix? : String → Option Format
  | ".toml" => some .toml
  | ".json" => some .json
  | _ => none

/-- Whether all that is not a number is one object in a format. -/
def Format.sharesNan : Format → Bool
  | .json => true
  | .toml => false

/-- The errors of a parser that do not say that the text is malformed. -/
inductive Escape where
  /-- An integer has too many digits to be converted. -/
  | valueError
  /-- The document is nested too deeply. -/
  | recursionError
  | other (message : String)
  deriving DecidableEq, Repr

/-- What a caller is confronted with. -/
def Escape.problem : Escape → Problem
  | .valueError => .badValue
  | .recursionError => .tooDeep
  | .other message => .raised message

/-- Why a parser does not return a document. -/
inductive ParseFault where
  /-- The decode error of the format, with its text. -/
  | rejected (message : String)
  | escaped (e : Escape)
  deriving DecidableEq, Repr

/-- How texts are parsed. -/
abbrev Parsers := Format → String → Except ParseFault Document

/-! ## Documents -/

/-- Why a document cannot be had. -/
inductive LoadFault where
  | unreadable (path : String) (fault : ReadFault)
  /-- The bytes of the file are not text. -/
  | notText
  | unsupported (suffix : String)
  /-- The parser has rejected the text, with a message of its own. -/
  | malformed (suffix message : String)
  | escaped (e : Escape)
  /-- The path has a null character. -/
  | badPath
  deriving DecidableEq, Repr

/-- What a caller is confronted with. -/
def LoadFault.problem : LoadFault → Problem
  | .unreadable path fault =>
    .config ("Unable to read " ++ path ++ ": [Errno " ++ natText fault.number ++ "] " ++
      fault.reason ++ ": " ++ quoted path)
  | .notText => .notText
  | .unsupported suffix =>
    .config ("Unsupported document type: " ++ (if suffix = "" then "no suffix" else suffix))
  | .malformed suffix message =>
    .config ("Unable to parse " ++ suffix ++ " document: " ++ message)
  | .escaped e => e.problem
  | .badPath => .badValue

/-- The value of the document that a text spells in the format of a suffix, with identities from
`n` on, and the next free one. -/
def parseDocument (parsers : Parsers) (n : Nat) (text suffix : String) :
    Except LoadFault (Value × Nat) :=
  match Format.ofSuffix? suffix with
  | none => .error (.unsupported suffix)
  | some format =>
    match parsers format text with
    | .ok d => .ok (d.toValueFrom format.sharesNan n)
    -- only the decode errors of the formats are caught
    | .error (.rejected message) => .error (.malformed suffix message)
    | .error (.escaped e) => .error (.escaped e)

/-! ## Files -/

/-- How files are read. -/
abbrev Reader := FilePath → Except ReadFault ByteArray

/-- A text in which every line end is a single line feed. -/
def unifyLineEnds : List Char → List Char
  | [] => []
  | '\r' :: '\n' :: r => '\n' :: unifyLineEnds r
  | '\r' :: r => '\n' :: unifyLineEnds r
  | c :: r => c :: unifyLineEnds r

/-- The text of a file. -/
def readText (read : Reader) (path : FilePath) : Except LoadFault String :=
  if path.text.contains '\x00' then .error .badPath
  else match read path with
    | .error fault => .error (.unreadable path.text fault)
    | .ok bytes =>
      match String.fromUTF8? bytes with
      | none => .error .notText
      | some text => .ok (String.ofList (unifyLineEnds text.toList))

/-- The document in a file. -/
def loadDocument (parsers : Parsers) (read : Reader) (n : Nat) (path : String) :
    Except LoadFault (Value × Nat) := do
  let p := FilePath.ofString path
  let text ← readText read p
  parseDocument parsers n text (lowerCase p.suffix)

/-- The key under which a table holds a pattern. -/
def patternKey : String := "pattern"

/-- The pattern that a document holds. -/
def patternOf (document : Value) : Value :=
  match document.editableEntries? with
  | some entries => (Value.lookup patternKey entries).getD document
  | none => document

/-- The pattern in a file. -/
def loadPattern (parsers : Parsers) (read : Reader) (n : Nat) (path : String) :
    Except LoadFault (Value × Nat) :=
  (loadDocument parsers read n path).map fun (document, m) => (patternOf document, m)

/-! ## Selecting -/

/-- Follows the parts of a key through tables; where a table or key is not there, `missing`. -/
def follow : List String → Value → Value
  | [], v => v
  | key :: keys, v =>
    match v.editableEntries? with
    | none => .missing
    | some entries => follow keys (Value.getD key entries)

theorem follow_missing {keys : List String} (h : keys ≠ []) : follow keys .missing = .missing := by
  cases keys with
  | nil => exact absurd rfl h
  | cons key keys => rfl

/-- A key in two parts is followed part by part. -/
theorem follow_append (keys more : List String) (v : Value) (h : more ≠ []) :
    follow (keys ++ more) v = follow more (follow keys v) := by
  induction keys generalizing v with
  | nil => rfl
  | cons key keys ih =>
    simp only [List.cons_append, follow]
    cases v.editableEntries? with
    | none => rw [follow_missing h]
    | some entries => exact ih _

/-- The part of a document under a dotted key; without a key, the document. -/
def select (document : Value) : Option String → Value
  | none | some "" => document
  | some key => follow (segments key) document

end DataShape
