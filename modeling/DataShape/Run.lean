import DataShape.Fault

/-!
# Runs of checks

* `Event` — what a check does to a value: it shows it to the library, or calls it.
* `Run` — the events of a check, in order, and how it ends; `Run.seen` — what the library saw.
* `Run.outcome` — the end as it is reported under a name.
* `Run.andThen` — one check after another: the second is only made if the first succeeds.
* `Run.within` — a check of a part, seen from the whole.
* `Run.each` — a check of the members of a list in order.
-/

namespace DataShape

@[simp] theorem mapError_ok {ε δ α : Type} (f : ε → δ) (a : α) :
    (Except.ok a).mapError f = .ok a := rfl

@[simp] theorem mapError_error {ε δ α : Type} (f : ε → δ) (e : ε) :
    (Except.error e : Except ε α).mapError f = .error (f e) := rfl

/-- What a check does to a value beyond looking at it. -/
inductive Event where
  /-- The value is shown to the library. -/
  | shown (v : Value)
  /-- The value is called. -/
  | called (v : Value)

/-- The value of an event in which the library sees one. -/
def Event.shown? : Event → Option Value
  | .shown v => some v
  | .called _ => none

/-- A run of a check: what is done to values, in order, and the result. -/
structure Run where
  events : List Event
  result : Except Failure Unit

namespace Run

/-- The values shown to the library, in order. -/
def seen (r : Run) : List Value := r.events.filterMap Event.shown?

/-- How a run ends for those who gave the checked value a name. -/
def outcome (name : Option String) (r : Run) : Except Problem Unit :=
  r.result.mapError (Failure.problem (labelOf name))

/-- The run that succeeds at once. -/
def pass : Run := ⟨[], .ok ()⟩

/-- The run that fails at once. -/
def fail (f : Failure) : Run := ⟨[], .error f⟩

/-- The run that fails at once because of the value itself. -/
def mismatch (m : Mismatch) : Run := fail (.mismatch m [])

/-- Succeeds at once or fails with a mismatch. -/
def require (b : Bool) (m : Mismatch) : Run := if b then pass else mismatch m

/-- One run after another. -/
def andThen (r : Run) (next : Unit → Run) : Run :=
  match r.result with
  | .ok () =>
    let n := next ()
    ⟨r.events ++ n.events, n.result⟩
  | .error _ => r

/-- A run in which a value is called first. -/
def calling (v : Value) (r : Run) : Run := ⟨.called v :: r.events, r.result⟩

/-- A run on a part of a value, seen from the whole. -/
def under (s : Step) (r : Run) : Run := ⟨r.events, r.result.mapError (Failure.under s)⟩

/-- A run on a part several steps away. -/
def within (steps : List Step) (r : Run) : Run := steps.foldr under r

/-- Whether a run succeeds. -/
def succeeds (r : Run) : Bool :=
  match r.result with
  | .ok () => true
  | .error _ => false

/-- Runs for the members of a list in order, numbered from `i`. -/
def each (check : Value → Run) (i : Nat) : List Value → Run
  | [] => pass
  | v :: vs => (under (.index i) (check v)).andThen fun _ => each check (i + 1) vs

/-! ## Laws -/

theorem andThen_pass (r : Run) : (r.andThen fun _ => pass) = r := by
  rcases r with ⟨events, result | ⟨⟨⟩⟩⟩ <;> simp [andThen, pass]

end Run

end DataShape
