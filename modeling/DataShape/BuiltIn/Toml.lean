import DataShape.BuiltIn.Toml.Scalar
import DataShape.BuiltIn.Toml.Tables

/-!
# TOML documents

* `Toml.value` — a scalar, an array or an inline table.
* `Toml.Builder` — the tables read so far, the paths that are closed, and the current section.
* `Toml.parse` — the document that a text spells.
-/

namespace DataShape

namespace Toml

/-! ## Values -/

/-- Reads a value that is neither an array nor an inline table. -/
def scalar (s : List Char) : Except Fault (Document × List Char) :=
  match s with
  | '"' :: '"' :: '"' :: r => (multilineString '"' r).map fun (x, rest) => (.string x, rest)
  | '"' :: r => (basicString r).map fun (x, rest) => (.string x, rest)
  | '\'' :: '\'' :: '\'' :: r => (multilineString '\'' r).map fun (x, rest) => (.string x, rest)
  | '\'' :: r => (literalString r).map fun (x, rest) => (.string x, rest)
  | 't' :: 'r' :: 'u' :: 'e' :: r => .ok (.boolean true, r)
  | 'f' :: 'a' :: 'l' :: 's' :: 'e' :: r => .ok (.boolean false, r)
  | _ =>
    match dateOrTime? s, number? s, special? s with
    | some found, _, _ => found
    | none, some found, _ => found
    | none, none, some found => .ok found
    | none, none, none => .error .malformed

/-- Adds what a dotted key is given in an inline table. -/
def addInline (k : Key) (d : Document) (t : Table) (fs : Flags) : Except Fault (Table × Flags) :=
  if fs.isClosed k then .error .malformed
  else match Table.updateAt false (Table.add (k.getLastD "") d) k.dropLast t with
    | some t => .ok (t, fs.close k d)
    | none => .error .malformed

/-- Expects the sign between a key and its value. -/
def expectEquals (s : List Char) : Except Fault (List Char) :=
  match s with
  | '=' :: r => .ok (skipBlank r)
  | _ => .error .malformed

mutual

/-- Reads a value; each bracket inside it takes two of the `fuel`. -/
def value : Nat → List Char → Except Fault (Document × List Char)
  | 0, _ => .error .malformed
  | fuel + 1, s =>
    match s with
    | '[' :: r => do
      let r ← skipLines r
      let (ds, rest) ← elements fuel r
      return (.array ds, rest)
    | '{' :: r =>
      match skipBlank r with
      | '}' :: rest => .ok (.table [], rest)
      | t => (pairs fuel [] .empty t).map fun (t, rest) => (.table t, rest)
    | _ => scalar s

/-- Reads the elements of an array up to its closing bracket; a comma may stand after the last. -/
def elements : Nat → List Char → Except Fault (List Document × List Char)
  | 0, _ => .error .malformed
  | fuel + 1, s =>
    match s with
    | ']' :: rest => .ok ([], rest)
    | _ => do
      let (d, s) ← value fuel s
      let s ← skipLines s
      match s with
      | ']' :: rest => return ([d], rest)
      | ',' :: r =>
        let r ← skipLines r
        let (ds, rest) ← elements fuel r
        return (d :: ds, rest)
      | _ => .error .malformed

/-- Reads the pairs of an inline table up to its closing bracket; there is at least one. -/
def pairs : Nat → Table → Flags → List Char → Except Fault (Table × List Char)
  | 0, _, _, _ => .error .malformed
  | fuel + 1, t, fs, s => do
    let (k, s) ← key s
    let s ← expectEquals s
    let (d, s) ← value fuel s
    let (t, fs) ← addInline k d t fs
    match skipBlank s with
    | '}' :: rest => return (t, rest)
    | ',' :: r => pairs fuel t fs (skipBlank r)
    | _ => .error .malformed

end

/-! ## Statements -/

/-- What has been read: the tables, the marks, and the path of the current section. -/
structure Builder where
  tables : Table
  flags : Flags
  header : Key

namespace Builder

/-- Nothing has been read. -/
def empty : Builder := ⟨[], .empty, []⟩

/-- Opens the section of a table. -/
def openTable (k : Key) (b : Builder) : Except Fault Builder :=
  let fs := b.flags.endSection
  if fs.isDefined k || fs.isClosed k then .error .malformed
  else match Table.updateAt true some k b.tables with
    | some t => .ok ⟨t, fs.define k, k⟩
    | none => .error .malformed

/-- Opens the section of a new table in an array. -/
def openElement (k : Key) (b : Builder) : Except Fault Builder :=
  let fs := b.flags.endSection
  if fs.isClosed k then .error .malformed
  else match Table.updateAt true (Table.addTable (k.getLastD "")) k.dropLast b.tables with
    | some t => .ok ⟨t, (fs.forget k).define k, k⟩
    | none => .error .malformed

/-- The tables that a dotted key leads through. -/
def tablesOn (b : Builder) (k : Key) : List Key :=
  (List.range (k.length - 1)).map fun i => b.header ++ k.take (i + 1)

/-- Adds a pair to the current section. -/
def add (k : Key) (d : Document) (b : Builder) : Except Fault Builder :=
  if (b.tablesOn k).any b.flags.isDefined then .error .malformed
  else if b.flags.isClosed (b.header ++ k.dropLast) then .error .malformed
  else
    let place := b.header ++ k.dropLast
    match Table.updateAt true (Table.add (k.getLastD "") d) place b.tables with
    | some t =>
      .ok ⟨t, { b.flags.close (b.header ++ k) d with
        pending := b.tablesOn k ++ b.flags.pending }, b.header⟩
    | none => .error .malformed

end Builder

/-- Reads one statement that is not empty. -/
def statement (b : Builder) (s : List Char) : Except Fault (Builder × List Char) :=
  match s with
  | '[' :: '[' :: r => do
    let (k, r) ← key (skipBlank r)
    let b ← b.openElement k
    match r with
    | ']' :: ']' :: rest => return (b, rest)
    | _ => .error .malformed
  | '[' :: r => do
    let (k, r) ← key (skipBlank r)
    let b ← b.openTable k
    match r with
    | ']' :: rest => return (b, rest)
    | _ => .error .malformed
  | _ => do
    let (k, r) ← key s
    let r ← expectEquals r
    let (d, rest) ← value (2 * r.length + 2) r
    return (← b.add k d, rest)

/-- Reads the statements of a document, one to a line. -/
def statements : Nat → Builder → List Char → Except Fault Table
  | 0, _, _ => .error .malformed
  | fuel + 1, b, s =>
    match skipBlank s with
    | [] => .ok b.tables
    | '\n' :: r => statements fuel b r
    | t => do
      let (b, t) ← if t.head? = some '#' then pure (b, t) else statement b t
      let t ← comment (skipBlank t)
      match t with
      | [] => .ok b.tables
      | '\n' :: r => statements fuel b r
      | _ => .error .malformed

/-- A text with single line ends. -/
def lineEnds : List Char → List Char
  | [] => []
  | '\r' :: '\n' :: r => '\n' :: lineEnds r
  | c :: r => c :: lineEnds r

/-- The document that a text spells. -/
def parse (text : String) : Except Fault Document :=
  let s := lineEnds text.toList
  (statements (s.length + 1) .empty s).map .table

end Toml

end DataShape
