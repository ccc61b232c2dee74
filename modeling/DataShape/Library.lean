import DataShape.Fault

/-!
# Libraries of observables

* `Recognition` — the answer of a library about a value.
* `Library` — something that tells observables from other values.
* `Library.stock?`, `Library.ofKind` — the libraries at hand, by kind; some cannot be asked.
* `Library.ofValue?` — the library that a value is, if it can be asked.
-/

namespace DataShape

/-- What a library says of a value; it may raise an error instead. -/
inductive Recognition where
  | yes
  | no
  | raised (message : String)
  /-- The library cannot be asked, and is not shown the value. -/
  | misused (m : Misuse)
  deriving DecidableEq, Repr

/-- A library of observables, with an identity. -/
structure Library where
  id : Nat
  recognise : Value → Recognition

namespace Recognition

/-- The answer of a test that never raises. -/
def ofBool (b : Bool) : Recognition := if b then .yes else .no

end Recognition

namespace Value

/-- Whether a value was made as an observable. -/
def isObservable : Value → Bool
  | .observable _ _ | .faulty _ _ => true
  | _ => false

/-- Whether a value was made as an observable or a function. -/
def isReadable : Value → Bool
  | .observable _ _ | .faulty _ _ | .function _ _ => true
  | _ => false

end Value

namespace Library

/-- The recognition of the libraries at hand, by kind. The others cannot recognise
anything. -/
def stock? : String → Option (Value → Recognition)
  | "ko" | "empty" => some fun v => .ofBool v.isObservable
  | "callable" => some fun v => .ofBool v.isCallable
  | "all" => some fun _ => .yes
  | "none" => some fun _ => .no
  | "truthy" => some fun v => .ofBool v.isReadable
  | "broken" => some fun _ => .raised "boom"
  | _ => none

/-- What is wrong with a library that cannot recognise anything: its predicate cannot be called,
or it has none. -/
def misuseOf : String → Misuse
  | "bad_predicate" => .notCallable (Value.boolean true).className
  | kind => .noPredicate kind

/-- The library of a kind. -/
def ofKind (id : Nat) (kind : String) : Library :=
  ⟨id, (stock? kind).getD fun _ => .misused (misuseOf kind)⟩

/-- The library that a value is, if it can recognise values. -/
def ofValue? : Value → Option Library
  | .library id kind => (stock? kind).map fun recognise => ⟨id, recognise⟩
  | _ => none

end Library

end DataShape
