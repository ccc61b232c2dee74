import DataShape.Proofs.Runs

/-!
# When checks succeed and how they fail

What a check asks of a value is settled at its level or left to the parts of the value.

* `Checker.run_error` — every way in which the checker of a type can fail.
* `Level.Settles`, `Level.Refuses`, `Level.Opens` — the level accepts, refuses, or asks the parts.
* `Level.succeeds_check_iff`, `Level.check_error` — a check of a level is nothing but these.
* `Pattern.succeeds_check_leaf`, …, `Pattern.succeeds_check_fields` — success, by the form of the
  pattern.
* `check_of_verify`, `verification_eq_ok_iff` — checks against patterns given as values.
* `Fails`, `fails_of_check` — every way in which a check can fail.  What is said of failing checks
  elsewhere is an induction on `Fails` and never opens the check again.
* `Pattern.mem_seen_check` — what a check shows to the library, the test of a type shows.
-/

namespace DataShape

/-! ## Checkers -/

namespace Checker

/-- The one mismatch that a checker finds. -/
def mismatch : Checker → Mismatch
  | .ofKind kind => .notOfKind kind
  | .callable => .notOfKind .function
  | .observable _ => .notObservable

/-- A checker fails with its mismatch, for want of a library, or because the library does. -/
theorem run_error {c : Checker} {v : Value} {f : Failure} (h : (c.run v).result = .error f) :
    f = .mismatch c.mismatch [] ∨ (c = .observable none ∧ f = .defect (.here .noLibrary)) ∨
      (∃ message, f = .raised message) ∨ ∃ m, f = .misuse m := by
  cases c with
  | ofKind kind =>
    obtain ⟨-, rfl⟩ := Run.require_error_iff.1 h
    exact .inl rfl
  | callable =>
    obtain ⟨-, rfl⟩ := Run.require_error_iff.1 h
    exact .inl rfl
  | observable library =>
    cases library with
    | none =>
      cases h
      exact .inr (.inl ⟨rfl, rfl⟩)
    | some l =>
      unfold run at h
      simp only at h
      split at h <;> cases h
      · exact .inl rfl
      · exact .inr (.inr (.inl ⟨_, rfl⟩))
      · exact .inr (.inr (.inr ⟨_, rfl⟩))

end Checker

/-! ## Levels -/

namespace Level

/-- The value passes, whatever its parts are. -/
inductive Settles (l : Level) : Value → Prop
  | missing : l.isOptional = true → Settles l .missing
  | null : l.isNullable = true → Settles l .null
  | choice {v vs} : v ≠ .missing → v ≠ .null → l.allowed = some vs →
      (∃ a ∈ vs, a.admits v = true) → Settles l v

/-- The value is refused with this failure, whatever its parts are. -/
inductive Refuses (T : TypeTable) (l : Level) : Value → Failure → Prop
  | missing : l.isOptional = false → Refuses T l .missing (.mismatch .mandatory [])
  | null : l.isNullable = false → Refuses T l .null (.mismatch .notNullable [])
  | choice {v vs} : v ≠ .missing → v ≠ .null → l.allowed = some vs →
      (∀ a ∈ vs, a.admits v = false) → Refuses T l v (.mismatch .notAllowed [])
  | type {v f} : v ≠ .missing → v ≠ .null → l.allowed = none →
      (T.check v l.type).result = .error f → Refuses T l v f

/-- The type of the value is right and nothing else settles it: its parts are asked. -/
structure Opens (T : TypeTable) (l : Level) (v : Value) : Prop where
  notMissing : v ≠ .missing
  notNull : v ≠ .null
  noChoice : l.allowed = none
  typed : (T.check v l.type).succeeds = true

variable {T : TypeTable} {l : Level} {v : Value} {parts : Unit → Run} {f : Failure}

theorem succeeds_check_iff :
    (l.check T v parts).succeeds = true ↔
      l.Settles v ∨ (l.Opens T v ∧ (parts ()).succeeds = true) := by
  by_cases hm : v = .missing
  · subst hm
    rw [check_missing, Run.succeeds_require]
    exact ⟨fun h => .inl (.missing h), fun h => by
      rcases h with h | h
      · cases h with
        | missing h => exact h
        | choice h => exact absurd rfl h
      · exact absurd rfl h.1.notMissing⟩
  by_cases hn : v = .null
  · subst hn
    rw [check_null, Run.succeeds_require]
    exact ⟨fun h => .inl (.null h), fun h => by
      rcases h with h | h
      · cases h with
        | null h => exact h
        | choice _ h => exact absurd rfl h
      · exact absurd rfl h.1.notNull⟩
  cases ha : l.allowed with
  | some vs =>
    rw [check_choice hm hn ha, Run.succeeds_require, List.any_eq_true]
    constructor
    · intro h
      exact .inl (.choice hm hn ha h)
    · rintro (h | ⟨h, -⟩)
      · cases h with
        | missing => exact absurd rfl hm
        | null => exact absurd rfl hn
        | choice _ _ ha' h => cases ha.symm.trans ha'; exact h
      · cases ha.symm.trans h.noChoice
  | none =>
    rw [check_type hm hn ha, Run.succeeds_andThen]
    constructor
    · rintro ⟨ht, hp⟩
      exact .inr ⟨⟨hm, hn, ha, ht⟩, hp⟩
    · rintro (h | ⟨h, hp⟩)
      · cases h with
        | missing => exact absurd rfl hm
        | null => exact absurd rfl hn
        | choice _ _ ha' => cases ha.symm.trans ha'
      · exact ⟨h.typed, hp⟩

theorem check_error (h : (l.check T v parts).result = .error f) :
    l.Refuses T v f ∨ (l.Opens T v ∧ (parts ()).result = .error f) := by
  by_cases hm : v = .missing
  · subst hm
    obtain ⟨ho, rfl⟩ := Run.require_error_iff.1 (check_missing ▸ h)
    exact .inl (.missing ho)
  by_cases hn : v = .null
  · subst hn
    obtain ⟨ho, rfl⟩ := Run.require_error_iff.1 (check_null ▸ h)
    exact .inl (.null ho)
  cases ha : l.allowed with
  | some vs =>
    rw [check_choice hm hn ha] at h
    obtain ⟨hv, rfl⟩ := Run.require_error_iff.1 h
    exact .inl (.choice hm hn ha (by simpa using hv))
  | none =>
    rw [check_type hm hn ha, Run.andThen_error_iff] at h
    rcases h with h | ⟨ht, h⟩
    · exact .inl (.type hm hn ha h)
    · exact .inr ⟨⟨hm, hn, ha, ht⟩, h⟩

end Level

/-! ## Success of a check, by the form of the pattern -/

namespace Pattern

variable {T : TypeTable} {l : Level} {p : Pattern} {fs : List (String × Pattern)} {v : Value}

theorem succeeds_check_leaf :
    ((leaf l).check T v).succeeds = true ↔ l.Settles v ∨ l.Opens T v := by
  rw [check, Level.succeeds_check_iff]
  simp

theorem succeeds_check_elements :
    ((elements l p).check T v).succeeds = true ↔
      l.Settles v ∨ (l.Opens T v ∧
        ∃ vs, v.iterate? = some vs ∧ ∀ u ∈ vs, (p.check T u).succeeds = true) := by
  rw [check, Level.succeeds_check_iff]
  cases hv : v.iterate? with
  | none => simp [checkEach, hv]
  | some vs => simp [checkEach, hv, Run.succeeds_each]

theorem succeeds_check_contents :
    ((contents l p).check T v).succeeds = true ↔
      l.Settles v ∨ (l.Opens T v ∧
        ∃ u, v.call = .returned u ∧ (p.check T u).succeeds = true) := by
  rw [check, Level.succeeds_check_iff]
  cases hv : v.call <;> simp [checkCall, hv]

theorem succeeds_checkAt {key : String} {c : Value → Run} :
    (checkAt key c v).succeeds = true ↔
      ∃ u, walk (segments key) v = .ok u ∧ (c u).succeeds = true := by
  cases hv : walk (segments key) v <;> simp [checkAt, hv]

theorem succeeds_checkFields :
    (checkFields T fs v).succeeds = true ↔
      ∀ f ∈ fs, ∃ u, walk (segments f.1) v = .ok u ∧ (f.2.check T u).succeeds = true := by
  induction fs with
  | nil => simp [checkFields]
  | cons f fs ih =>
    obtain ⟨key, p⟩ := f
    simp [checkFields, Run.succeeds_andThen, succeeds_checkAt, ih]

theorem succeeds_check_fields :
    ((fields l fs).check T v).succeeds = true ↔
      l.Settles v ∨ (l.Opens T v ∧
        ∀ f ∈ fs, ∃ u, walk (segments f.1) v = .ok u ∧ (f.2.check T u).succeeds = true) := by
  rw [check, Level.succeeds_check_iff, succeeds_checkFields]

end Pattern

/-! ## Patterns given as values -/

theorem check_of_verify {T : TypeTable} {P : Value} {p : Pattern} (h : verify T P = .ok p)
    (v : Value) : check T v P = p.check T v := by
  rw [check, h]

theorem check_of_verify_error {T : TypeTable} {P : Value} {f : Finding}
    (h : verify T P = .error f) (v : Value) : check T v P = .fail (.defect f) := by
  rw [check, h]

theorem verification_eq_ok_iff {T : TypeTable} {P : Value} {name : Option String} :
    (verification T P).outcome name = .ok () ↔ ∃ p, verify T P = .ok p := by
  rw [verification, Run.outcome_eq_ok_iff]
  cases verify T P <;> simp

/-! ## Failures of a check -/

/-- The ways in which the check of a value against a pattern fails. -/
inductive Fails (T : TypeTable) : Pattern → Value → Failure → Prop
  /-- The level itself refuses the value. -/
  | level {p v f} : p.level.Refuses T v f → Fails T p v f
  | notIterable {l p v} : l.Opens T v → v.iterate? = none →
      Fails T (.elements l p) v (.misuse (.notIterable v.className))
  | element {l p v vs i u f} : l.Opens T v → v.iterate? = some vs → vs[i]? = some u →
      Fails T p u f → Fails T (.elements l p) v (f.under (.index i))
  | notCallable {l p v} : l.Opens T v → v.call = .notCallable →
      Fails T (.contents l p) v (.misuse (.notCallable v.className))
  /-- The call of an observable raises an error of its own. -/
  | raised {l p v message} : l.Opens T v → v.call = .raised message →
      Fails T (.contents l p) v (.raised message)
  | contents {l p v u f} : l.Opens T v → v.call = .returned u → Fails T p u f →
      Fails T (.contents l p) v (f.under .call)
  /-- The way to a field leads through a value that is not an object. -/
  | blocked {l fs v key p steps} : l.Opens T v → (key, p) ∈ fs →
      walk (segments key) v = .error steps →
      Fails T (.fields l fs) v (.mismatch (.notOfKind .object) steps)
  | field {l fs v key p u f} : l.Opens T v → (key, p) ∈ fs → walk (segments key) v = .ok u →
      Fails T p u f → Fails T (.fields l fs) v (f.within (keySteps (segments key)))

/-- Failing fields fail at one of them: on the way to it, or in the check of what is there. -/
theorem checkFields_error {T : TypeTable} {fs : List (String × Pattern)} {v : Value} {f : Failure}
    (h : (Pattern.checkFields T fs v).result = .error f) :
    ∃ key p, (key, p) ∈ fs ∧
      ((∃ steps, walk (segments key) v = .error steps ∧
          f = .mismatch (.notOfKind .object) steps) ∨
        ∃ u g, walk (segments key) v = .ok u ∧ (p.check T u).result = .error g ∧
          f = g.within (keySteps (segments key))) := by
  induction fs with
  | nil => cases h
  | cons e fs ih =>
    obtain ⟨key, p⟩ := e
    rw [Pattern.checkFields, Run.andThen_error_iff] at h
    rcases h with h | ⟨-, h⟩
    · refine ⟨key, p, List.mem_cons_self, ?_⟩
      unfold checkAt at h
      split at h
      · rename_i u hu
        obtain ⟨g, hg, rfl⟩ := Run.within_error_iff.1 h
        exact .inr ⟨u, g, hu, hg, rfl⟩
      · rename_i steps hs
        cases h
        exact .inl ⟨steps, hs, rfl⟩
    · obtain ⟨key', p', hmem, h'⟩ := ih h
      exact ⟨key', p', List.mem_cons_of_mem _ hmem, h'⟩

/-- **A check that fails does so in one of these ways.** -/
theorem fails_of_check {T : TypeTable} {p : Pattern} {v : Value} {f : Failure}
    (h : (p.check T v).result = .error f) : Fails T p v f := by
  induction p using Pattern.induct generalizing v f with
  | leaf l =>
    rw [Pattern.check] at h
    rcases Level.check_error h with h | ⟨-, h⟩
    · exact .level h
    · cases h
  | elements l p ih =>
    rw [Pattern.check] at h
    rcases Level.check_error h with h | ⟨ho, h⟩
    · exact .level h
    unfold checkEach at h
    split at h
    · rename_i vs hvs
      obtain ⟨i, u, g, hi, hg, rfl⟩ := Run.each_error h
      rw [Nat.zero_add]
      exact .element ho hvs hi (ih hg)
    · rename_i hvs
      cases h
      exact .notIterable ho hvs
  | contents l p ih =>
    rw [Pattern.check] at h
    rcases Level.check_error h with h | ⟨ho, h⟩
    · exact .level h
    unfold checkCall at h
    split at h
    · rename_i u hu
      obtain ⟨g, hg, rfl⟩ := Run.under_error_iff.1 h
      exact .contents ho hu (ih hg)
    · rename_i message hu
      cases h
      exact .raised ho hu
    · rename_i hu
      cases h
      exact .notCallable ho hu
  | fields l fs ih =>
    rw [Pattern.check] at h
    rcases Level.check_error h with h | ⟨ho, h⟩
    · exact .level h
    obtain ⟨key, p, hmem, ⟨steps, hs, rfl⟩ | ⟨u, g, hu, hg, rfl⟩⟩ := checkFields_error h
    · exact .blocked ho hmem hs
    · exact .field ho hmem hu (ih (key, p) hmem hg)

/-! ## What the library is shown -/

namespace TypeTable

/-- Only the registered library can be asked. -/
theorem library_of_checker? {library : Option Library} {type : Value} {l : Library}
    (h : (standardWith library).checker? type = some (.observable (some l))) :
    library = some l := by
  cases type with
  | string s =>
    rw [checker?, find?_standardWith] at h
    split at h
    · injection h with h
      injection h
    · unfold Checker.ofName? at h
      split at h <;> cases h
  | _ => cases h

/-- Without a library the test of a type shows nothing. -/
theorem seen_check_standard (v type : Value) : (standard.check v type).seen = [] := by
  rw [check]
  split
  · rename_i c hc
    cases c with
    | ofKind kind => exact Run.seen_require _ _
    | callable => exact Run.seen_require _ _
    | observable library =>
      cases library with
      | none => rfl
      | some l =>
        have hnone : (standardWith none).checker? type = some (.observable (some l)) := hc
        cases library_of_checker? hnone
  · rfl

end TypeTable

/-- The test of a type shows nothing but the value itself. -/
theorem TypeTable.eq_of_mem_seen_check {T : TypeTable} {v type u : Value}
    (h : u ∈ (T.check v type).seen) : u = v := by
  unfold check at h
  split at h
  · rename_i c _
    cases c with
    | ofKind kind =>
      rw [Checker.run, Run.seen_require] at h
      cases h
    | callable =>
      rw [Checker.run, Run.seen_require] at h
      cases h
    | observable library =>
      cases library with
      | none => cases h
      | some l =>
        unfold Checker.run at h
        simp only at h
        split at h
        · exact List.mem_singleton.1 h
        · exact List.mem_singleton.1 h
        · exact List.mem_singleton.1 h
        · cases h
  · cases h

theorem mem_seen_checkFields {T : TypeTable} {Q : Value → Prop} {fs : List (String × Pattern)}
    (hfs : ∀ f ∈ fs, ∀ v, ∀ u ∈ (f.2.check T v).seen, Q u) (v : Value) :
    ∀ u ∈ (Pattern.checkFields T fs v).seen, Q u := by
  intro u hu
  induction fs with
  | nil => cases hu
  | cons f fs ih =>
    obtain ⟨hf, hfs⟩ := List.forall_mem_cons.1 hfs
    rcases Run.mem_seen_andThen hu with hu | hu
    · unfold checkAt at hu
      split at hu
      · rename_i w _
        rw [Run.seen_within] at hu
        exact hf w u hu
      · cases hu
    · exact ih hfs hu

section

variable {T : TypeTable} {Q : Value → Prop}
  (hQ : ∀ v type, v ≠ .missing → v ≠ .null → ∀ u ∈ (T.check v type).seen, Q u)

include hQ

theorem Level.mem_seen_check {l : Level} {v : Value} {parts : Unit → Run}
    (hparts : ∀ u ∈ (parts ()).seen, Q u) : ∀ u ∈ (l.check T v parts).seen, Q u := by
  intro u hu
  by_cases hm : v = .missing
  · subst hm
    rw [check_missing, Run.seen_require] at hu
    cases hu
  by_cases hn : v = .null
  · subst hn
    rw [check_null, Run.seen_require] at hu
    cases hu
  cases ha : l.allowed with
  | some vs =>
    rw [check_choice hm hn ha, Run.seen_require] at hu
    cases hu
  | none =>
    rw [check_type hm hn ha] at hu
    rcases Run.mem_seen_andThen hu with hu | hu
    · exact hQ v l.type hm hn u hu
    · exact hparts u hu

/-- **What the library is shown**, in whatever part of the value, it is shown by the test of a type,
and never an absent or null value. -/
theorem Pattern.mem_seen_check (p : Pattern) (v : Value) : ∀ u ∈ (p.check T v).seen, Q u := by
  induction p using Pattern.induct generalizing v with
  | leaf l => exact Level.mem_seen_check hQ (fun _ hu => nomatch hu)
  | elements l p ih =>
    refine Level.mem_seen_check hQ fun u hu => ?_
    unfold checkEach at hu
    split at hu
    · obtain ⟨w, -, hu⟩ := Run.mem_seen_each hu
      exact ih w u hu
    · cases hu
  | contents l p ih =>
    refine Level.mem_seen_check hQ fun u hu => ?_
    unfold checkCall at hu
    rw [Run.seen_calling] at hu
    split at hu
    · rename_i w _
      exact ih w u hu
    · cases hu
    · cases hu
  | fields l fs ih => exact Level.mem_seen_check hQ (mem_seen_checkFields ih v)

end

end DataShape
