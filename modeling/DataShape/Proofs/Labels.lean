import DataShape.Proofs.Engines
import DataShape.Session

/-!
# Names as labels

The name of a checked value is handed down through verification, through both engines and along
dotted keys, and grows on the way.  It is only put in front of the places that are reported, and
decides nothing: not whether a check succeeds, not with which fault it ends, not what the library
sees.

* `Wording`, `Course` — how a run ends, with the name left open; `Course.under` puts it in.
* `Failure.course`, `Run.course` — the course of a run; `Run.report_eq_course` — what is reported
  under a name is the course with that name.
* `Session.step_relabelled` — a name changes nothing in a session.
* `name_is_label` — **the name is only a label**, in checks and in verifications.
-/

namespace DataShape

/-! ## Courses -/

/-- A message in which the path, if it occurs, is left open. -/
inductive Wording where
  | fixed (message : String)
  /-- What stands before and after the path. -/
  | around (before after : String)

/-- The message for a path. -/
def Wording.message : Wording → String → String
  | .fixed message, _ => message
  | .around before after, path => before ++ path ++ after

/-- How a run ends, with the name of the checked value left open. -/
inductive Course where
  | passed
  /-- A library or an observable has raised an error of its own. -/
  | raised (message : String)
  | misused (m : Misuse)
  /-- A value that the message would mention cannot be shown. -/
  | badValue
  /-- A fault that is reported without a path. -/
  | unplaced (blame : Blame) (message : String)
  /-- A fault that is reported at a path, given by what follows the name. -/
  | placed (blame : Blame) (wording : Wording) (suffix : String)

/-- What is reported when the checked value has the given name. -/
def Course.under (name : String) : Course → Except Problem Unit
  | .passed => .ok ()
  | .raised message => .error (.raised message)
  | .misused m => .error (.misuse m)
  | .badValue => .error .badValue
  | .unplaced blame message => .error (.reported ⟨blame, message, none⟩)
  | .placed blame wording suffix =>
    .error (.reported ⟨blame, wording.message (name ++ suffix), some (name ++ suffix)⟩)

/-- The course of a run that ends with a finding in the pattern. -/
def Finding.course (f : Finding) : Course :=
  if f.defect.isShowable then
    match f.steps with
    | none => .unplaced .config f.defect.message
    | some steps => .placed .config (.fixed f.defect.message) (stepsText steps)
  else .badValue

/-- The course of a run that ends with a failure. -/
def Failure.course : Failure → Course
  | .defect f => f.course
  | .mismatch m steps => .placed .pattern (.around m.around.1 m.around.2) (stepsText steps)
  | .raised message => .raised message
  | .misuse m => .misused m

/-- The course of a run. -/
def Run.course (r : Run) : Course :=
  match r.result with
  | .ok () => .passed
  | .error f => f.course

theorem Finding.under_course (name : String) (f : Finding) :
    f.course.under name = .error (f.problem name) := by
  obtain ⟨d, steps⟩ := f
  unfold course problem Defect.problem
  cases hd : d.isShowable with
  | true => cases steps <;> simp [Course.under, Wording.message]
  | false => simp [Course.under]

theorem Failure.under_course (name : String) (f : Failure) :
    f.course.under name = .error (f.problem name) := by
  cases f with
  | defect f => exact f.under_course name
  | mismatch m steps => rfl
  | raised message => rfl
  | misuse m => rfl

/-- **What is reported under a name** is the course of the run with that name. -/
theorem Run.report_eq_course (name : String) (r : Run) :
    r.report name = ⟨r.events, r.course.under name⟩ := by
  unfold report course
  rcases r.result with f | ⟨⟨⟩⟩
  · rw [f.under_course name]
    rfl
  · rfl

namespace Engine

/-- The course of a check or a verification is that of its run. -/
theorem check_eq_course (T : TypeTable) (v P : Value) (name : Option String) :
    check T v P name =
      ⟨(DataShape.check T v P).events, (DataShape.check T v P).course.under (labelOf name)⟩ := by
  rw [check_eq, Run.report_eq_course]

theorem verify_eq_course (T : TypeTable) (P : Value) (name : Option String) :
    verify T P name = ⟨[], (verification T P).course.under (labelOf name)⟩ := by
  have hevents : (verification T P).events = [] := by
    rw [verification]
    cases DataShape.verify T P <;> rfl
  rw [verify_eq_report, Run.report_eq_course, hevents]

end Engine

/-! ## Sessions -/

/-- A name changes nothing in a session. -/
theorem Session.step_relabelled (offers : Value → Option Library) (s : Session) (v P : Value)
    (on name name' : Option String) :
    (s.step offers (.check v P name on)).1 = (s.step offers (.check v P name' on)).1 ∧
      (s.step offers (.verify P name on)).1 = (s.step offers (.verify P name' on)).1 := by
  refine ⟨?_, rfl⟩
  have hseen : ∀ T, (Engine.check T v P name).seen = (Engine.check T v P name').seen := fun T => by
    rw [Checking.seen, Checking.seen, Engine.events_check, Engine.events_check]
  simp only [step, check, hseen]

/-! ## Names are labels -/

/-- **The name is only a label.**  A check takes one course under all names: it does the same to the
same values, and succeeds, ends with the same error of a library or an observable, or with the same
kind of fault, where the name can only stand in front of the path, and the path only at one place in
the message.  The same holds for verifications.  A name that is empty or not given stands for
`configObject`, and no name changes what libraries are shown, or anything else in a session. -/
theorem name_is_label (T : TypeTable) (v P : Value) :
    (∃ (events : List Event) (course : Course), ∀ name, name ≠ "" →
      Engine.check T v P (some name) = ⟨events, course.under name⟩) ∧
    (∃ course : Course, ∀ name, name ≠ "" →
      Engine.verify T P (some name) = ⟨[], course.under name⟩) ∧
    (∀ name, name = none ∨ name = some "" →
      Engine.check T v P name = Engine.check T v P (some "configObject") ∧
      Engine.verify T P name = Engine.verify T P (some "configObject")) ∧
    (∀ (offers : Value → Option Library) (s : Session) (on name name' : Option String),
      (s.step offers (.check v P name on)).1 = (s.step offers (.check v P name' on)).1 ∧
      (s.step offers (.verify P name on)).1 = (s.step offers (.verify P name' on)).1) := by
  refine ⟨⟨(check T v P).events, (check T v P).course, fun name h => ?_⟩,
    ⟨(verification T P).course, fun name h => ?_⟩, fun name h => ?_, ?_⟩
  · rw [Engine.check_eq_course, labelOf_some h]
  · rw [Engine.verify_eq_course, labelOf_some h]
  · have hlabel : labelOf name = labelOf (some "configObject") := by
      rcases h with rfl | rfl <;> rfl
    rw [Engine.check_eq, Engine.check_eq, Engine.verify_eq, Engine.verify_eq, hlabel]
    exact ⟨rfl, rfl⟩
  · intro offers s on name name'
    exact Session.step_relabelled offers s v P on name name'

theorem shelf_has_one_course :
    let shelf : Value := .mapping .editable 2
      [(.string "row", .mapping .editable 3
        [(.string "books", .sequence .list 4 [.string "Emma", .integer 7])])]
    let P : Value := .mapping .editable 5 [(.string "row.books", .string "array string")]
    ∃ (events : List Event) (course : Course),
      Engine.check .standard shelf P (some "shelf") = ⟨events, course.under "shelf"⟩ ∧
      Engine.check .standard shelf P (some "a.b") = ⟨events, course.under "a.b"⟩ ∧
      course.under "shelf" = .error (.reported ⟨.pattern,
        "shelf.row.books[1] should have string type!", some "shelf.row.books[1]"⟩) ∧
      course.under "a.b" = .error (.reported ⟨.pattern,
        "a.b.row.books[1] should have string type!", some "a.b.row.books[1]"⟩) := by
  intro shelf P
  obtain ⟨events, course, hcourse⟩ := (name_is_label .standard shelf P).1
  have hresult : ∀ name, name ≠ "" →
      course.under name = (check .standard shelf P).outcome (some name) := fun name h => by
    rw [← Engine.result_check, hcourse name h]
  refine ⟨events, course, hcourse "shelf" (by decide), hcourse "a.b" (by decide), ?_, ?_⟩
  · rw [hresult "shelf" (by decide)]
    decide +kernel
  · rw [hresult "a.b" (by decide)]
    decide +kernel

end DataShape
