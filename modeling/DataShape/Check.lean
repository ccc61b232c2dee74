import DataShape.Pattern

/-!
# Checks

Checks against the normal form of a pattern, which is read once. They do and report what
`_dispatch`, `_check_string`, `_check_object`, `_check_allowed_values` and `_check_shorthand` do on
patterns as they are given: `Engine.check_eq` and `Engine.verify_eq` say so.

* `walk` — from a value along a dotted key.
* `Level.check` — what is asked of a value itself, and what follows when its type is right.
* `Pattern.check` — a value against a pattern, by recursion on the pattern.
* `verify`, `check` — the same for patterns given as values: a defect anywhere in a pattern is
  found before a value is looked at. `verification` is the run of `verify` alone.
-/

namespace DataShape

/-- Follows the parts of a key from a value. A key that is not there leads to `missing`; if a value
on the way is not an object, the steps up to that value are returned. -/
def walk : List String → Value → Except (List Step) Value
  | [], v => .ok v
  | key :: keys, v =>
    match v.entries? with
    | none => .error []
    | some es => (walk keys (Value.getD key es)).mapError (.field key :: ·)

/-- A key in two parts is followed part by part. -/
theorem walk_append (keys more : List String) (v : Value) :
    walk (keys ++ more) v =
      match walk keys v with
      | .ok u => (walk more u).mapError (keys.map Step.field ++ ·)
      | .error steps => .error steps := by
  induction keys generalizing v with
  | nil => cases h : walk more v <;> simp [walk, h]
  | cons key keys ih =>
    simp only [List.cons_append, walk]
    cases hv : v.entries? with
    | none => rfl
    | some es =>
      simp only [ih]
      rcases walk keys (Value.getD key es) with e | u
      · rfl
      · simp only [mapError_ok]
        generalize walk more u = r
        cases r <;> rfl

/-- The steps of a dotted key. -/
def keySteps (keys : List String) : List Step := keys.map .field

/-- Checks what a dotted key leads to. -/
def checkAt (key : String) (check : Value → Run) (v : Value) : Run :=
  match walk (segments key) v with
  | .ok u => (check u).within (keySteps (segments key))
  | .error steps => .fail (.mismatch (.notOfKind .object) steps)

/-- Checks what a call of a value returns. -/
def checkCall (check : Value → Run) (v : Value) : Run :=
  .calling v <|
    match v.call with
    | .returned u => (check u).under .call
    | .raised message => .fail (.raised message)
    | .notCallable => .fail (.misuse (.notCallable v.className))

/-- Checks what a loop over a value runs through. -/
def checkEach (check : Value → Run) (v : Value) : Run :=
  match v.iterate? with
  | some vs => .each check 0 vs
  | none => .fail (.misuse (.notIterable v.className))

/-- Checks a value itself. Absent and null values are settled by the modifiers and values with
a choice by the choice; in all other cases the type decides, and `parts` follows. -/
def Level.check (T : TypeTable) (l : Level) (v : Value) (parts : Unit → Run) : Run :=
  match v with
  | .missing => .require l.isOptional .mandatory
  | .null => .require l.isNullable .notNullable
  | v =>
    match l.allowed with
    | some vs => .require (vs.any fun a => a.admits v) .notAllowed
    | none => (T.check v l.type).andThen parts

namespace Level

variable {T : TypeTable} {l : Level} {v : Value} {parts : Unit → Run}

theorem check_missing : l.check T .missing parts = .require l.isOptional .mandatory := rfl

theorem check_null : l.check T .null parts = .require l.isNullable .notNullable := rfl

/-- Values with a choice are settled by it. -/
theorem check_choice {vs : List Value} (hm : v ≠ .missing) (hn : v ≠ .null)
    (h : l.allowed = some vs) :
    l.check T v parts = .require (vs.any fun a => a.admits v) .notAllowed := by
  cases v <;> simp_all [check]

/-- Other values are settled by their type and parts. -/
theorem check_type (hm : v ≠ .missing) (hn : v ≠ .null) (h : l.allowed = none) :
    l.check T v parts = (T.check v l.type).andThen parts := by
  cases v <;> simp_all [check]

end Level

namespace Pattern

mutual

/-- Checks a value against a pattern. -/
def check (T : TypeTable) : Pattern → Value → Run
  | .leaf l, v => l.check T v fun _ => .pass
  | .elements l p, v => l.check T v fun _ => checkEach (fun u => check T p u) v
  | .contents l p, v => l.check T v fun _ => checkCall (fun u => check T p u) v
  | .fields l fs, v => l.check T v fun _ => checkFields T fs v

/-- Checks the fields of a value in order. -/
def checkFields (T : TypeTable) : List (String × Pattern) → Value → Run
  | [], _ => .pass
  | (key, p) :: rest, v =>
    (checkAt key (fun u => check T p u) v).andThen fun _ => checkFields T rest v

end

end Pattern

/-- The pattern that a value stands for, without looking at a value to be checked. -/
def verify (T : TypeTable) (pattern : Value) : Except Finding Pattern := Pattern.read T pattern

/-- The verification of a pattern as a run of its own. -/
def verification (T : TypeTable) (pattern : Value) : Run :=
  match verify T pattern with
  | .ok _ => .pass
  | .error f => .fail (.defect f)

/-- Checks a value against a pattern given as a value. -/
def check (T : TypeTable) (v pattern : Value) : Run :=
  match verify T pattern with
  | .ok p => p.check T v
  | .error f => .fail (.defect f)

end DataShape
