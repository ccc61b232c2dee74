import DataShape.Document

/-!
# Tables built key by key

* `Table.updateAt` — changes the table at a path, which is made when it is not there.
* `Table.add`, `Table.addTable` — a new entry, and a new table in an array of tables.
* `Flags` — which paths may no longer be opened: `defined` for exactly these paths, `closed` for
  these and all below.
-/

namespace DataShape

namespace Toml

/-- A path of keys. -/
abbrev Key := List String

/-- The entries of a table. -/
abbrev Table := List (String × Document)

namespace Table

/-- Changes the entry of a key in place, or adds one at the end. -/
def alter (key : String) (f : Option Document → Option Document) : Table → Option Table
  | [] => (f none).map fun d => [(key, d)]
  | (k, d) :: rest =>
    if k = key then (f (some d)).map fun e => (k, e) :: rest
    else (alter key f rest).map ((k, d) :: ·)

/-- Changes the last element. -/
def alterLast (f : Document → Option Document) : List Document → Option (List Document)
  | [] => none
  | [d] => (f d).map fun e => [e]
  | d :: ds => (alterLast f ds).map (d :: ·)

/-- Changes what a key leads to as a table: a new table when there is none, with `arrays` also the
last table of an array. -/
def inside (arrays : Bool) (f : Table → Option Table) : Option Document → Option Document
  | none => (f []).map .table
  | some (.table t) => (f t).map .table
  | some (.array ds) =>
    if arrays then
      (alterLast (fun | .table t => (f t).map Document.table | _ => none) ds).map .array
    else none
  | some _ => none

/-- Changes the table at a path. -/
def updateAt (arrays : Bool) (f : Table → Option Table) : Key → Table → Option Table
  | [], t => f t
  | k :: ks, t => alter k (inside arrays (updateAt arrays f ks)) t

/-- Adds an entry under a key that is not there yet. -/
def add (key : String) (d : Document) (t : Table) : Option Table :=
  alter key (fun | none => some d | some _ => none) t

/-- Adds an empty table to the array under a key. -/
def addTable (key : String) (t : Table) : Option Table :=
  alter key (fun
    | none => some (.array [.table []])
    | some (.array ds) => some (.array (ds ++ [.table []]))
    | some _ => none) t

end Table

/-- Paths that may no longer be opened. -/
structure Flags where
  defined : List Key
  closed : List Key
  /-- Paths that will be defined when the section ends. -/
  pending : List Key

namespace Flags

/-- No path is marked. -/
def empty : Flags := ⟨[], [], []⟩

/-- Whether a path has been defined. -/
def isDefined (fs : Flags) (key : Key) : Bool := fs.defined.contains key

/-- Whether a path is closed or lies below one that is. -/
def isClosed (fs : Flags) (key : Key) : Bool := fs.closed.any (·.isPrefixOf key)

/-- Marks a path as defined. -/
def define (key : Key) (fs : Flags) : Flags := { fs with defined := key :: fs.defined }

/-- Closes a path when it has been given an array or a table. -/
def close (key : Key) (d : Document) (fs : Flags) : Flags :=
  match d with
  | .array _ | .table _ => { fs with closed := key :: fs.closed }
  | _ => fs

/-- Forgets the marks of a path and of all paths below. -/
def forget (key : Key) (fs : Flags) : Flags :=
  { fs with
    defined := fs.defined.filter fun k => !key.isPrefixOf k
    closed := fs.closed.filter fun k => !key.isPrefixOf k }

/-- Ends a section. -/
def endSection (fs : Flags) : Flags := ⟨fs.pending ++ fs.defined, fs.closed, []⟩

end Flags

end Toml

end DataShape
