import DataShape.Value

/-!
# Documents

* `Document` — what a file in one of the document formats says.
* `Document.insert` — sets a key of a table; a key that is there keeps its place.
* `Document.toValue` — the value of a document, in which each container and number gets an identity
  of its own.
-/

namespace DataShape

/-- The content of a document. -/
inductive Document where
  | null
  | boolean (b : Bool)
  | integer (n : Int)
  | float (x : Binary64)
  | string (s : String)
  | array (items : List Document)
  | table (entries : List (String × Document))
  | date (d : Date)
  | dateTime (t : DateTime)
  | time (t : TimeOfDay)

namespace Document

/-- Sets a key of a table. -/
def insert (key : String) (d : Document) : List (String × Document) → List (String × Document)
  | [] => [(key, d)]
  | (k, e) :: rest => if k = key then (k, d) :: rest else (k, e) :: insert key d rest

/-- The entries of a table, from entries in which keys may repeat. -/
def distinct (es : List (String × Document)) : List (String × Document) :=
  es.foldl (fun acc (k, d) => insert k d acc) []

/-- The identity of what is not a number, where all documents of a format share it. -/
def sharedNan : Nat := 1

/-- The least identity that is not reserved. -/
def firstId : Nat := 2

mutual

/-- The value of a document. Identities are taken from `n` on; the next free one is returned. With
`shared`, all that is not a number is one object. -/
def toValueFrom (shared : Bool) (n : Nat) : Document → Value × Nat
  | .null => (.null, n)
  | .boolean b => (.boolean b, n)
  | .integer i => (.integer i, n)
  | .float x => if shared ∧ x = .nan then (.float sharedNan x, n) else (.float n x, n + 1)
  | .string s => (.string s, n)
  | .array items =>
    let (vs, m) := itemsFrom shared (n + 1) items
    (.sequence .list n vs, m)
  | .table entries =>
    let (vs, m) := entriesFrom shared (n + 1) entries
    (.mapping .editable n vs, m)
  | .date d => (.date d, n)
  | .dateTime t => (.dateTime t, n)
  | .time t => (.time ⟨t, none⟩, n)

/-- The values of the items of an array. -/
def itemsFrom (shared : Bool) (n : Nat) : List Document → List Value × Nat
  | [] => ([], n)
  | d :: ds =>
    let (v, m) := toValueFrom shared n d
    let (vs, k) := itemsFrom shared m ds
    (v :: vs, k)

/-- The values of the entries of a table. -/
def entriesFrom (shared : Bool) (n : Nat) : List (String × Document) → List (Value × Value) × Nat
  | [] => ([], n)
  | (key, d) :: ds =>
    let (v, m) := toValueFrom shared n d
    let (vs, k) := entriesFrom shared m ds
    ((.string key, v) :: vs, k)

end

end Document

end DataShape
