import DataShape.Pattern

/-!
# The engines

Verification and checks as they are carried out, on patterns as they are given: the name of the
value is handed down from part to part, and a check reads each text and each type again.

Model of `verify`, `_verify_object` and `_resolve_type`, of `check`, `_dispatch`, `_check_string`,
`_check_object`, `_check_allowed_values` and `_check_shorthand`, and of the checkers of types with
`require` and `check_type`:

* `Checking` — a part of a check: what is done to values, in order, and what comes of it.
* `Engine.require`, `Engine.checkType` — look-up of a type, and the test of a value.
* `Engine.verify` — a pattern without a value.
* `Engine.checkString` — a value against a string pattern, level by level.
* `Engine.dispatch`, `Engine.checkObject` — a value against any pattern, which for a mapping goes on
  with the patterns of its entries.
* `Engine.check` — verification, and then the check of the value.
-/

namespace DataShape

/-- A part of a check: what is done to values, in order, and what comes of it. -/
structure Checking (α : Type) where
  events : List Event
  result : Except Problem α

namespace Checking

variable {α β : Type}

/-- One part after another; an error ends both. -/
protected def bind (x : Checking α) (f : α → Checking β) : Checking β :=
  match x.result with
  | .ok a => ⟨x.events ++ (f a).events, (f a).result⟩
  | .error p => ⟨x.events, .error p⟩

instance : Monad Checking where
  pure a := ⟨[], .ok a⟩
  bind := Checking.bind

/-- Ends with an error. -/
def raise (p : Problem) : Checking α := ⟨[], .error p⟩

/-- Ends with a `ConfigError`. -/
def configError (message : String) (path : Option String) : Checking α :=
  raise (.reported ⟨.config, message, path⟩)

/-- Ends with a `PatternError`. -/
def patternError (message path : String) : Checking α :=
  raise (.reported ⟨.pattern, message, some path⟩)

/-- What `text` says of a value inside a message. -/
def spell (text : Value → String) (v : Value) : Checking String :=
  if v.isShowable then pure (text v) else raise .badValue

/-- The values shown to the library, in order. -/
def seen (x : Checking α) : List Value := x.events.filterMap Event.shown?

end Checking

namespace Engine

open Checking

/-! ## Types -/

/-- The name of a type, if it is known: `require`. -/
def require (T : TypeTable) (type : Value) (path : Option String) : Checking String :=
  let unknown : Checking String := do
    let text ← spell Value.text type
    configError ("Unknown type: " ++ text) path
  match type with
  | .string name => if T.knows name then pure name else unknown
  | _ => unknown

/-- The checker of a kind of values: `simple_checker`. -/
def simpleChecker (kind : Kind) (v : Value) (path : String) : Checking Unit :=
  if v.kind = kind then pure ()
  else patternError (path ++ " should have " ++ kind.name ++ " type!") path

/-- Anything that can be called: `check_function`. -/
def checkFunction (v : Value) (path : String) : Checking Unit :=
  if v.isCallable then pure ()
  else patternError (path ++ " should have function type!") path

/-- Lists and tuples: `check_array`. -/
def checkArray (v : Value) (path : String) : Checking Unit :=
  if v.members?.isSome then pure ()
  else patternError (path ++ " has to be an array!") path

/-- Days, with a time of day or without: `check_date`. -/
def checkDate (v : Value) (path : String) : Checking Unit :=
  match v with
  | .date _ | .dateTime _ => pure ()
  | _ => patternError (path ++ " has to be a date object!") path

/-- Without a library observables cannot be told: `check_observable_unavailable`. -/
def checkObservableUnavailable (path : String) : Checking Unit :=
  configError "Observable checking is not possible because no knockout instance is given!" path

/-- What a library says of a value that it is shown. -/
def ask (library : Library) (v : Value) : Checking Bool :=
  match library.recognise v with
  | .yes => ⟨[.shown v], .ok true⟩
  | .no => ⟨[.shown v], .ok false⟩
  | .raised message => ⟨[.shown v], .error (.raised message)⟩
  | .misused m => raise (.misuse m)

/-- What a library takes for an observable: `observable_checker`. -/
def checkObservable (library : Library) (v : Value) (path : String) : Checking Unit := do
  let isObservable ← ask library v
  if isObservable then pure ()
  else patternError (path ++ " has to be an observable!") path

/-- The test of a checker. -/
def applyChecker : Checker → Value → String → Checking Unit
  | .ofKind .array, v, path => checkArray v path
  | .ofKind .date, v, path => checkDate v path
  | .ofKind kind, v, path => simpleChecker kind v path
  | .callable, v, path => checkFunction v path
  | .observable none, _, path => checkObservableUnavailable path
  | .observable (some library), v, path => checkObservable library v path

/-- The test of a value by a type: `check_type`. -/
def checkType (T : TypeTable) (v type : Value) (path : String) : Checking Unit := do
  let name ← require T type path
  match T.find? name with
  | some c => applyChecker c v path
  | none => pure ()

/-! ## Faults of patterns -/

/-- The pattern that a text spells: `parse_string_pattern`. -/
def parse (T : TypeTable) (text : String) : Checking StringPattern :=
  match StringPattern.parse T text with
  | .ok p => pure p
  | .error d => raise (d.problem none)

/-- What is neither text nor mapping nor string pattern. -/
def invalidPattern (P : Value) (path : String) : Checking Unit := do
  let text ← spell Value.text P
  configError ("Invalid pattern: " ++ text) path

/-- A key of a mapping that names no field. -/
def invalidKey (key : Value) (path : String) : Checking Unit := do
  let text ← spell Value.shown key
  configError ("Invalid pattern: field key " ++ text ++ " is not a string!") path

/-- The type of a mapping, whose allowed values are looked at as well: `_resolve_type`. -/
def resolveType (T : TypeTable) (es : List (Value × Value)) (name : String) :
    Checking String := do
  let given := (Value.lookup Keyword.type es).getD .null
  let type ← require T (if given.truthy then given else .string defaultType) name
  match Value.getD Keyword.allowedValues es with
  | .missing => pure type
  | allowed =>
    if allowed.members?.isSome then pure type
    else
      configError "Invalid pattern: the __allowedValues property always has to be an array!" name

/-- Goes on with the value under a key of a mapping, if there is one. -/
def ifGiven (key : String) (es : List (Value × Value))
    (next : (E : Value) → sizeOf E < sizeOf es → Checking Unit) : Checking Unit :=
  match h : Value.lookup key es with
  | some E => next E (Value.sizeOf_lookup_lt h)
  | none => pure ()

/-! ## Verification -/

mutual

/-- Looks for a defect of a pattern: `verify`. -/
def verify (T : TypeTable) (P : Value) (name : Option String) : Checking Unit :=
  let name := labelOf name
  match P with
  | .string text => do let _ ← parse T text
  | .mapping _ _ es | .callableMapping _ es _ => verifyObject T es name
  | .prebuilt _ _ _ _ _ => pure ()
  | P => invalidPattern P name
termination_by (sizeOf P, 0)

/-- Looks for a defect of a mapping: `_verify_object`. -/
def verifyObject (T : TypeTable) (es : List (Value × Value)) (name : String) :
    Checking Unit := do
  let type ← resolveType T es name
  ifGiven Keyword.elements es fun E _ => verify T E (name ++ "[]")
  ifGiven Keyword.contents es fun E _ => if E.isNull then pure () else verify T E (name ++ "()")
  if type = "object" then verifyFields T es name else pure ()
termination_by (sizeOf es, 1)

/-- Looks for a defect of the fields of a mapping, in order. -/
def verifyFields (T : TypeTable) (es : List (Value × Value)) (name : String) : Checking Unit :=
  match es with
  | [] => pure ()
  | (k, P) :: rest => do
    (if Keyword.reserves k then pure ()
      else match k with
        | .string key => verify T P (name ++ "." ++ key)
        | k => invalidKey k name)
    verifyFields T rest name
termination_by (sizeOf es, 0)

end

/-! ## Parts of values -/

/-- Calls a value. -/
def callValue (v : Value) : Checking Value :=
  ⟨[.called v],
    match v.call with
    | .returned u => .ok u
    | .raised message => .error (.raised message)
    | .notCallable => .error (.misuse (.notCallable v.className))⟩

/-- Carries out a check for the members of a list, numbered from `i`. -/
def forEachFrom (i : Nat) (check : Value → String → Checking Unit) (name : String) :
    List Value → Checking Unit
  | [] => pure ()
  | v :: vs => do
    check v (name ++ "[" ++ natText i ++ "]")
    forEachFrom (i + 1) check name vs

/-- Carries out a check for all that a loop over a value runs through. -/
def forEach (v : Value) (name : String) (check : Value → String → Checking Unit) :
    Checking Unit :=
  match v.iterate? with
  | some vs => forEachFrom 0 check name vs
  | none => raise (.misuse (.notIterable v.className))

/-- Follows the parts of a key from a value; the name grows with each part. -/
def followKey : List String → Value → String → Checking (Value × String)
  | [], v, name => pure (v, name)
  | key :: keys, v, name =>
    match v.entries? with
    | none => patternError (name ++ " should have object type!") name
    | some es => followKey keys (Value.getD key es) (name ++ "." ++ key)

/-! ## String patterns -/

/-- Checks a value against a level of a string pattern: `_check_string`.  Contents that are not
another level count as none. -/
def checkString (T : TypeTable) : Value → Value → String → Checking Unit
  | .prebuilt type isOptional isNullable within _, v, name =>
    match v with
    | .missing =>
      if isOptional.truthy then pure () else patternError (name ++ " is mandatory!") name
    | .null =>
      if isNullable.truthy then pure () else patternError (name ++ " shouldn't be null!") name
    | v => do
      checkType T v type name
      if within.isPrebuilt then
        if type.isString "array" then
          forEach v name fun u name => checkString T within u name
        else do
          let u ← callValue v
          checkString T within u (name ++ "()")
      else pure ()
  | _, _, _ => pure ()

/-! ## All patterns -/

/-- Whether a value is one of the allowed ones: `_check_allowed_values`. -/
def checkAllowedValues (v allowed : Value) (name : String) : Checking Unit :=
  match allowed.iterate? with
  | some vs =>
    if vs.any fun a => a.admits v then pure ()
    else patternError ("The value of " ++ name ++ " is not among the allowed ones!") name
  | none => raise (.misuse (.notIterable allowed.className))

mutual

/-- Checks a value against a pattern that has been verified: `_dispatch`. -/
def dispatch (T : TypeTable) (v P : Value) (name : String) : Checking Unit :=
  match P with
  | .mapping _ _ es | .callableMapping _ es _ => checkObject T v es name
  | .string text => do
    let p ← parse T text
    checkString T p.toValue v name
  | .prebuilt _ _ _ _ _ => checkString T P v name
  | P => invalidPattern P name
termination_by (sizeOf P, 0)

/-- Checks a value against a mapping: `_check_object`. -/
def checkObject (T : TypeTable) (v : Value) (es : List (Value × Value)) (name : String) :
    Checking Unit := do
  let type ← resolveType T es name
  match v with
  | .missing =>
    if (Value.lookup Keyword.required es).any Pattern.isFalse then pure ()
    else patternError (name ++ " is mandatory!") name
  | .null =>
    if (Value.lookup Keyword.nullable es).any Pattern.isTrue then pure ()
    else patternError (name ++ " shouldn't be null!") name
  | v =>
    match Value.getD Keyword.allowedValues es with
    | .missing => do
      checkType T v (.string type) name
      checkParts T v es type name
    | allowed => checkAllowedValues v allowed name
termination_by (sizeOf es, 2)

/-- Checks the parts of a value whose type is right: the end of `_check_object`. -/
def checkParts (T : TypeTable) (v : Value) (es : List (Value × Value)) (type name : String) :
    Checking Unit :=
  if type = "array" then
    ifGiven Keyword.elements es fun E _ => forEach v name fun u name => dispatch T u E name
  else if type = "object" then checkFields T v es name
  else if type = "observable" then
    ifGiven Keyword.contents es fun E _ =>
      if E.isNull then pure ()
      else do
        let u ← callValue v
        dispatch T u E (name ++ "()")
  else pure ()
termination_by (sizeOf es, 1)

/-- Checks the fields of a value in order. -/
def checkFields (T : TypeTable) (v : Value) (es : List (Value × Value)) (name : String) :
    Checking Unit :=
  match es with
  | [] => pure ()
  | (k, P) :: rest => do
    (if Keyword.reserves k then pure ()
      else match k with
        | .string key => checkShorthand T v key P name
        | k => invalidKey k name)
    checkFields T v rest name
termination_by (sizeOf es, 0)

/-- Checks what a dotted key leads to: `_check_shorthand`. -/
def checkShorthand (T : TypeTable) (v : Value) (key : String) (P : Value) (name : String) :
    Checking Unit := do
  let (u, name) ← followKey (segments key) v name
  dispatch T u P name
termination_by (sizeOf P, 1)

end

/-- Checks a value against a pattern: `check`. -/
def check (T : TypeTable) (v P : Value) (name : Option String) : Checking Unit := do
  let name := labelOf name
  verify T P name
  dispatch T v P name

end Engine

end DataShape
