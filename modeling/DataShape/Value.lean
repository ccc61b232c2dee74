import DataShape.Binary64
import DataShape.Calendar

/-!
# Values

The values that patterns are checked against, and of which patterns are made.

* `Value` — plain data, containers, and the objects that are only known by what they can do.
* `Kind`, `Value.kind` — the ten kinds that checks tell apart: `kind_of`.
* `Value.members?`, `Value.entries?`, `Value.iterate?`, `Value.call` — the views through which a
  check looks into a value.
* `Value.className` — the class of a value, as errors of the language name it.
* `Value.lookup`, `Value.getD` — the entry of a mapping under a string key; `Value.sizeOf_lookup_lt`
  lets a recursion follow it.
* `Value.truthy` — whether a value counts as true.

Containers, floats and objects carry an identity, a number that tells two occurrences of the same
content apart.
-/

namespace DataShape

/-- Whether a sequence can be changed. -/
inductive SequenceForm where
  | list
  | tuple
  deriving DecidableEq, Repr

/-- Whether a mapping can be changed. -/
inductive MappingForm where
  | editable
  | readOnly
  deriving DecidableEq, Repr

/-- A value. The first number of a constructor is the identity of the object. -/
inductive Value where
  /-- A value that is absent, as opposed to one that is null. -/
  | missing
  | null
  | boolean (b : Bool)
  | integer (n : Int)
  | float (id : Nat) (x : Binary64)
  | string (s : String)
  | sequence (form : SequenceForm) (id : Nat) (items : List Value)
  | mapping (form : MappingForm) (id : Nat) (entries : List (Value × Value))
  | date (d : Date)
  | dateTime (t : DateTime)
  | time (t : ZonedTime)
  | bytes (bs : List UInt8)
  | set (items : List Value)
  /-- An object with nothing but an identity and a name. -/
  | plain (id : Nat) (name : String)
  /-- A function without arguments. -/
  | function (id : Nat) (result : Value)
  /-- An observable: calling it reads its contents. -/
  | observable (id : Nat) (contents : Value)
  /-- An observable whose contents cannot be read. -/
  | faulty (id : Nat) (message : String)
  /-- A class of plain objects: calling it makes one. -/
  | factory (id : Nat) (name : String)
  | callableSequence (id : Nat) (items : List Value) (result : Value)
  | callableMapping (id : Nat) (entries : List (Value × Value)) (result : Value)
  /-- A library of observables, of one of the kinds at hand. -/
  | library (id : Nat) (kind : String)
  /-- One level of a string pattern built by hand: nothing has been checked. The pattern of the
  contents is another such level, or null. -/
  | prebuilt (typeName isOptional isNullable contents : Value) (source : String)

/-- The kinds of values that checks tell apart. -/
inductive Kind where
  | missing
  | null
  | boolean
  | number
  | string
  | array
  | object
  | date
  | function
  | other
  deriving DecidableEq, Repr

namespace Kind

/-- The name of a kind. -/
def name : Kind → String
  | .missing => "missing"
  | .null => "null"
  | .boolean => "boolean"
  | .number => "number"
  | .string => "string"
  | .array => "array"
  | .object => "object"
  | .date => "date"
  | .function => "function"
  | .other => "other"

/-- Arrays and objects, whose content does not make them equal. -/
def isContainer : Kind → Bool
  | .array | .object => true
  | _ => false

end Kind

/-- What a call without arguments comes to. -/
inductive Call where
  | returned (v : Value)
  | raised (message : String)
  | notCallable

namespace Value

/-- The kind of a value. A sequence or mapping that can also be called is an array or object. -/
def kind : Value → Kind
  | .missing => .missing
  | .null => .null
  | .boolean _ => .boolean
  | .integer _ | .float _ _ => .number
  | .string _ => .string
  | .sequence _ _ _ | .callableSequence _ _ _ => .array
  | .mapping _ _ _ | .callableMapping _ _ _ => .object
  | .date _ | .dateTime _ => .date
  | .function _ _ | .observable _ _ | .faulty _ _ | .factory _ _ => .function
  | .time _ | .bytes _ | .set _ | .plain _ _ | .library _ _ | .prebuilt _ _ _ _ _ => .other

/-- The members of an array, in order. -/
def members? : Value → Option (List Value)
  | .sequence _ _ items | .callableSequence _ items _ => some items
  | _ => none

/-- The entries of an object, in order. -/
def entries? : Value → Option (List (Value × Value))
  | .mapping _ _ entries | .callableMapping _ entries _ => some entries
  | _ => none

/-- The entries of an object that is not read-only. -/
def editableEntries? : Value → Option (List (Value × Value))
  | .mapping .editable _ entries | .callableMapping _ entries _ => some entries
  | _ => none

/-- What a loop over a value runs through: the members of an array, the keys of an object, the
characters of a string, the elements of a set and the numbers of bytes. -/
def iterate? : Value → Option (List Value)
  | .sequence _ _ items | .callableSequence _ items _ | .set items => some items
  | .mapping _ _ entries | .callableMapping _ entries _ => some (entries.map Prod.fst)
  | .string s => some (s.toList.map fun c => .string (String.singleton c))
  | .bytes bs => some (bs.map fun b => .integer b.toNat)
  | _ => none

/-- Calls a value without arguments. A factory makes a new object, of which nothing else knows. -/
def call : Value → Call
  | .function _ result | .observable _ result | .callableSequence _ _ result
  | .callableMapping _ _ result => .returned result
  | .faulty _ message => .raised message
  | .factory _ name => .returned (.plain 0 name)
  | _ => .notCallable

/-- Whether a value can be called. -/
def isCallable (v : Value) : Bool :=
  match v.call with
  | .notCallable => false
  | _ => true

/-- The name of the class of a value. -/
def className : Value → String
  | .missing => "_MissingType"
  | .null => "NoneType"
  | .boolean _ => "bool"
  | .integer _ => "int"
  | .float _ _ => "float"
  | .string _ => "str"
  | .sequence .list _ _ | .callableSequence _ _ _ => "list"
  | .sequence .tuple _ _ => "tuple"
  | .mapping .editable _ _ | .callableMapping _ _ _ => "dict"
  | .mapping .readOnly _ _ => "mappingproxy"
  | .date _ => "datetime.date"
  | .dateTime _ => "datetime.datetime"
  | .time _ => "datetime.time"
  | .bytes _ => "bytes"
  | .set _ => "set"
  | .plain _ name => name
  | .function _ _ => "function"
  | .observable _ _ | .faulty _ _ => "Observable"
  | .factory _ _ => "type"
  | .library _ kind => kind
  | .prebuilt _ _ _ _ _ => "StringPattern"

/-- Whether a value is null. -/
def isNull : Value → Bool
  | .null => true
  | _ => false

/-- Whether a value is a level of a string pattern. -/
def isPrebuilt : Value → Bool
  | .prebuilt _ _ _ _ _ => true
  | _ => false

theorem isNull_iff {v : Value} : v.isNull = true ↔ v = .null := by
  cases v <;> simp [isNull]

/-- Whether a value is the given string. -/
def isString (s : String) : Value → Bool
  | .string t => t == s
  | _ => false

theorem isString_iff {s : String} {v : Value} : v.isString s = true ↔ v = .string s := by
  cases v <;> simp [isString]

/-- The value under a string key, the first if there are several. -/
def lookup (key : String) : List (Value × Value) → Option Value
  | [] => none
  | (k, v) :: rest => if k.isString key then some v else lookup key rest

/-- The entry of an object under a string key; `missing` when there is none. -/
def getD (key : String) (entries : List (Value × Value)) : Value :=
  (lookup key entries).getD .missing

/-- Whether a value counts as true: absent, null and false values, zeros, and empty strings and
containers do not, nor does an empty library. -/
def truthy : Value → Bool
  | .missing | .null => false
  | .boolean b => b
  | .integer n => n != 0
  | .float _ x => !x.isZero
  | .string s => s != ""
  | .sequence _ _ items | .callableSequence _ items _ | .set items => !items.isEmpty
  | .mapping _ _ entries | .callableMapping _ entries _ => !entries.isEmpty
  | .bytes bs => !bs.isEmpty
  | .library _ kind => kind != "empty"
  | _ => true

theorem lookup_mem {key : String} {es : List (Value × Value)} {v : Value}
    (h : lookup key es = some v) : (.string key, v) ∈ es := by
  induction es with
  | nil => cases h
  | cons e es ih =>
    obtain ⟨k, w⟩ := e
    rw [lookup] at h
    split at h
    · rename_i hk
      cases h
      rw [isString_iff.1 hk]
      exact List.mem_cons_self
    · exact List.mem_cons_of_mem _ (ih h)

theorem sizeOf_lookup_lt {key : String} {es : List (Value × Value)} {v : Value}
    (h : lookup key es = some v) : sizeOf v < sizeOf es := by
  have hmem := List.sizeOf_lt_of_mem (lookup_mem h)
  simp only [Prod.mk.sizeOf_spec] at hmem
  omega

theorem kind_eq_array_iff {v : Value} : v.kind = .array ↔ v.members?.isSome := by
  cases v <;> simp [kind, members?]

theorem kind_eq_object_iff {v : Value} : v.kind = .object ↔ v.entries?.isSome := by
  cases v <;> simp [kind, entries?]

theorem kind_eq_null_iff {v : Value} : v.kind = .null ↔ v = .null := by
  cases v <;> simp [kind]

/-- The loop over an array runs through its members. -/
theorem iterate?_eq_members? {v : Value} (h : v.kind = .array) : v.iterate? = v.members? := by
  cases v <;> simp_all [kind, iterate?, members?]

end Value

end DataShape
