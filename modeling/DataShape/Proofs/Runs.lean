import DataShape.Check

/-!
# How runs end

A run either succeeds or ends with one failure.  For each way of putting runs together this file
says when the whole succeeds, and which failure of which part it ends with:

* `Run.succeeds_andThen`, `Run.succeeds_each` — a whole succeeds iff all its parts do.
* `Run.andThen_error_iff`, `Run.under_error_iff`, `Run.within_error_iff` — whose failure it is.
* `Run.each_error` — a failing list has a member that fails, and the failure says which.
* `Run.mem_seen_andThen`, `Run.mem_seen_each` — in which part a value is shown to the library.
* `Run.outcome_eq_ok_iff`, `Run.outcome_eq_error_iff` — what is reported under a name.
-/

namespace DataShape

/-- A failure of a part several steps away, seen from the whole. -/
def Failure.within (steps : List Step) (f : Failure) : Failure := steps.foldr Failure.under f

/-- A mismatch in the whole is a mismatch of the part, with the step to it in front. -/
theorem Failure.under_eq_mismatch {s : Step} {f : Failure} {m : Mismatch} {steps : List Step}
    (h : f.under s = .mismatch m steps) : ∃ rest, f = .mismatch m rest ∧ steps = s :: rest := by
  cases f with
  | mismatch m' rest =>
    cases h
    exact ⟨rest, rfl, rfl⟩
  | _ => cases h

theorem Failure.within_eq_mismatch {way : List Step} {f : Failure} {m : Mismatch}
    {steps : List Step} (h : f.within way = .mismatch m steps) :
    ∃ rest, f = .mismatch m rest ∧ steps = way ++ rest := by
  induction way generalizing steps with
  | nil => exact ⟨steps, h, rfl⟩
  | cons s way ih =>
    obtain ⟨rest, hrest, rfl⟩ := under_eq_mismatch (f := f.within way) h
    obtain ⟨rest', hf, rfl⟩ := ih hrest
    exact ⟨rest', hf, rfl⟩

/-- A failure of a part is reported like a failure of its own, under the path to the part. -/
theorem Failure.problem_under (name : String) (s : Step) (f : Failure) :
    (f.under s).problem name = f.problem (name ++ s.text) := by
  cases f with
  | defect g =>
    obtain ⟨d, steps⟩ := g
    cases steps with
    | none => rfl
    | some steps =>
      simp only [under, problem, Finding.under, Finding.problem, Option.map_some, stepsText,
        String.append_assoc]
  | mismatch m steps => simp only [under, problem, stepsText, String.append_assoc]
  | raised message => rfl
  | misuse m => rfl

theorem append_ne_empty {name : String} (h : name ≠ "") (text : String) : name ++ text ≠ "" := by
  intro he
  have hlist := congrArg String.toList he
  rw [String.toList_append] at hlist
  have hname := (List.append_eq_nil_iff.1 hlist).1
  exact h (String.toList_inj.1 hname)

theorem labelOf_some {name : String} (h : name ≠ "") : labelOf (some name) = name := by
  unfold labelOf
  split
  · contradiction
  · rename_i heq
    exact absurd (Option.some.inj heq) h
  · rename_i heq
    exact (Option.some.inj heq).symm

namespace Run

variable {r : Run} {next : Unit → Run} {f : Failure}

/-! ## Parts of a whole -/

theorem under_andThen (s : Step) :
    (r.andThen next).under s = (r.under s).andThen fun _ => (next ()).under s := by
  rcases r with ⟨events, e | ⟨⟨⟩⟩⟩ <;> rfl

theorem within_cons (s : Step) (steps : List Step) :
    within (s :: steps) r = (within steps r).under s := rfl

/-! ## Success -/

theorem succeeds_iff : r.succeeds = true ↔ r.result = .ok () := by
  rcases r with ⟨events, e | ⟨⟨⟩⟩⟩ <;> simp [succeeds]

@[simp] theorem succeeds_pass : pass.succeeds = true := rfl

@[simp] theorem succeeds_fail : (fail f).succeeds = false := rfl

@[simp] theorem succeeds_require (b : Bool) (m : Mismatch) : (require b m).succeeds = b := by
  cases b <;> rfl

@[simp] theorem succeeds_calling (v : Value) : (calling v r).succeeds = r.succeeds := rfl

@[simp] theorem succeeds_under (s : Step) : (under s r).succeeds = r.succeeds := by
  rcases r with ⟨events, e | ⟨⟨⟩⟩⟩ <;> rfl

@[simp] theorem succeeds_within (steps : List Step) : (within steps r).succeeds = r.succeeds := by
  induction steps with
  | nil => rfl
  | cons s steps ih => rw [← ih]; exact succeeds_under s

theorem succeeds_andThen :
    (r.andThen next).succeeds = true ↔ r.succeeds = true ∧ (next ()).succeeds = true := by
  rcases r with ⟨events, e | ⟨⟨⟩⟩⟩ <;> simp [andThen, succeeds]

/-- The members of a list pass in order iff each passes by itself. -/
theorem succeeds_each {check : Value → Run} {vs : List Value} {i : Nat} :
    (each check i vs).succeeds = true ↔ ∀ v ∈ vs, (check v).succeeds = true := by
  induction vs generalizing i with
  | nil => simp [each]
  | cons v vs ih => simp [each, succeeds_andThen, ih]

/-! ## Failures -/

theorem require_error_iff {b : Bool} {m : Mismatch} :
    (require b m).result = .error f ↔ b = false ∧ f = .mismatch m [] := by
  cases b <;> simp [require, pass, mismatch, fail, eq_comm]

theorem under_error_iff {s : Step} :
    (under s r).result = .error f ↔ ∃ g, r.result = .error g ∧ f = g.under s := by
  rcases r with ⟨events, e | ⟨⟨⟩⟩⟩ <;> simp [under, eq_comm]

theorem within_error_iff {steps : List Step} :
    (within steps r).result = .error f ↔ ∃ g, r.result = .error g ∧ f = g.within steps := by
  induction steps generalizing f with
  | nil => simp [within, Failure.within]
  | cons s steps ih =>
    rw [within_cons, under_error_iff]
    constructor
    · rintro ⟨g, hg, rfl⟩
      obtain ⟨g', hg', rfl⟩ := ih.1 hg
      exact ⟨g', hg', rfl⟩
    · rintro ⟨g, hg, rfl⟩
      exact ⟨g.within steps, ih.2 ⟨g, hg, rfl⟩, rfl⟩

theorem andThen_error_iff :
    (r.andThen next).result = .error f ↔
      r.result = .error f ∨ (r.succeeds = true ∧ (next ()).result = .error f) := by
  rcases r with ⟨events, e | ⟨⟨⟩⟩⟩ <;> simp [andThen, succeeds]

/-- **A list fails at one of its members**, whose failure is reported under its number. -/
theorem each_error {check : Value → Run} {vs : List Value} {i : Nat}
    (h : (each check i vs).result = .error f) :
    ∃ j v g, vs[j]? = some v ∧ (check v).result = .error g ∧ f = g.under (.index (i + j)) := by
  induction vs generalizing i with
  | nil => cases h
  | cons v vs ih =>
    rw [each, andThen_error_iff] at h
    rcases h with h | ⟨-, h⟩
    · obtain ⟨g, hg, rfl⟩ := under_error_iff.1 h
      exact ⟨0, v, g, rfl, hg, rfl⟩
    · obtain ⟨j, u, g, hj, hg, rfl⟩ := ih h
      exact ⟨j + 1, u, g, hj, hg, by rw [Nat.add_assoc, Nat.add_comm 1 j]⟩

/-! ## One run after another -/

theorem andThen_of_succeeds (h : r.succeeds = true) :
    r.andThen next = ⟨r.events ++ (next ()).events, (next ()).result⟩ := by
  rw [andThen, succeeds_iff.1 h]

theorem andThen_of_fails (h : r.succeeds = false) : r.andThen next = r := by
  rcases r with ⟨events, e | ⟨⟨⟩⟩⟩
  · rfl
  · cases h

/-! ## What the library is shown -/

@[simp] theorem seen_require (b : Bool) (m : Mismatch) : (require b m).seen = [] := by
  cases b <;> rfl

@[simp] theorem seen_calling (v : Value) : (calling v r).seen = r.seen := rfl

@[simp] theorem seen_under (s : Step) : (under s r).seen = r.seen := rfl

@[simp] theorem events_within (steps : List Step) : (within steps r).events = r.events := by
  induction steps with
  | nil => rfl
  | cons s steps ih => exact ih

@[simp] theorem seen_within (steps : List Step) : (within steps r).seen = r.seen := by
  rw [seen, events_within, seen]

theorem seen_andThen_of_succeeds (h : r.succeeds = true) :
    (r.andThen next).seen = r.seen ++ (next ()).seen := by
  rw [andThen_of_succeeds h, seen, seen, seen, List.filterMap_append]

theorem mem_seen_andThen {u : Value} (h : u ∈ (r.andThen next).seen) :
    u ∈ r.seen ∨ u ∈ (next ()).seen := by
  rcases r with ⟨events, e | ⟨⟨⟩⟩⟩
  · exact .inl h
  · rw [andThen, seen, List.filterMap_append, List.mem_append] at h
    exact h

theorem mem_seen_each {check : Value → Run} {vs : List Value} {i : Nat} {u : Value}
    (h : u ∈ (each check i vs).seen) : ∃ v ∈ vs, u ∈ (check v).seen := by
  induction vs generalizing i with
  | nil => cases h
  | cons v vs ih =>
    rcases mem_seen_andThen h with h | h
    · exact ⟨v, List.mem_cons_self, h⟩
    · obtain ⟨w, hw, hu⟩ := ih h
      exact ⟨w, List.mem_cons_of_mem _ hw, hu⟩

/-! ## Reports -/

instance : DecidableEq (Except Problem Unit)
  | .ok (), .ok () => isTrue rfl
  | .error p, .error q => decidable_of_iff (p = q) (by simp)
  | .ok (), .error _ => isFalse nofun
  | .error _, .ok () => isFalse nofun

/-- The check of a part ends like a check of its own, under the path to the part. -/
theorem outcome_under {name : String} (h : name ≠ "") (s : Step) :
    (under s r).outcome (some name) = r.outcome (some (name ++ s.text)) := by
  rcases r with ⟨events, e | ⟨⟨⟩⟩⟩
  · simp only [outcome, under, mapError_error, labelOf_some h, labelOf_some (append_ne_empty h _),
      Failure.problem_under]
  · rfl

theorem outcome_eq_ok_iff {name : Option String} :
    r.outcome name = .ok () ↔ r.succeeds = true := by
  rcases r with ⟨events, e | ⟨⟨⟩⟩⟩ <;> simp [outcome, succeeds]

theorem outcome_eq_error_iff {name : Option String} {p : Problem} :
    r.outcome name = .error p ↔ ∃ f, r.result = .error f ∧ f.problem (labelOf name) = p := by
  rcases r with ⟨events, e | ⟨⟨⟩⟩⟩ <;> simp [outcome]

end Run

end DataShape
