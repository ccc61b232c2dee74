import DataShape.Proofs.Conformance
import DataShape.Proofs.Engines

/-!
# Faults of patterns and faults of data

A defect of a pattern is reported before any value is looked at, and a pattern that passes its
verification has no defect left for a value to find.

* `Level.IsKnown`, `Pattern.IsKnown` — every level of a pattern has a type of the table.
* `isKnown_of_read` — verification leaves only such patterns, if they are written out.
* `defect_of_fails` — such a pattern fails with a defect only where a library is missing.
* `pattern_faults_precede_values` — **the separation of the two kinds of faults**.
-/

namespace DataShape

/-! ## Known types -/

def Level.IsKnown (T : TypeTable) (l : Level) : Prop := ∃ c, T.checker? l.type = some c

/-- Every level of the pattern has a type of the table. -/
inductive Pattern.IsKnown (T : TypeTable) : Pattern → Prop
  | leaf {l} : l.IsKnown T → IsKnown T (.leaf l)
  | elements {l p} : l.IsKnown T → IsKnown T p → IsKnown T (.elements l p)
  | contents {l p} : l.IsKnown T → IsKnown T p → IsKnown T (.contents l p)
  | fields {l fs} : l.IsKnown T → (∀ f ∈ fs, IsKnown T f.2) → IsKnown T (.fields l fs)

section

variable {T : TypeTable}

theorem Pattern.IsKnown.level {p : Pattern} (h : p.IsKnown T) : p.level.IsKnown T := by
  cases h <;> assumption

theorem Level.isKnown_of_knows {l : Level} {type : String} (hl : l.type = .string type)
    (h : T.knows type = true) : l.IsKnown T := by
  unfold IsKnown
  rw [hl]
  exact Option.isSome_iff_exists.1 h

theorem isKnown_ofString {p : StringPattern} (h : p.Grammatical T) :
    (Pattern.ofString p).IsKnown T := by
  induction h with
  | leaf hk _ => exact .leaf (Level.isKnown_of_knows rfl hk)
  | nest hk _ _ ih =>
    unfold Pattern.ofString
    split
    · exact .elements (Level.isKnown_of_knows rfl hk) ih
    · exact .contents (Level.isKnown_of_knows rfl hk) ih

/-- **What verification establishes**, wherever a check can get to. -/
theorem isKnown_of_read (P : Value) {p : Pattern} (hw : P.isWrittenOut = true)
    (hr : Pattern.read T P = .ok p) : p.IsKnown T := by
  induction P using Value.inductOnEntries generalizing p with
  | other P he =>
    rcases Pattern.read_of_no_entries he hr with ⟨s, sp, rfl, hs, rfl⟩ | ⟨_, _, _, _, _, rfl, -⟩
    · exact isKnown_ofString (StringPattern.grammatical_of_parse hs)
    · cases hw
  | entries P es he ih =>
    have hsub : ∀ {k E q}, (k, E) ∈ es → Keyword.isPlace k = true → Pattern.read T E = .ok q →
        q.IsKnown T :=
      fun hE hk hq => ih _ hE (Value.isWrittenOut_of_mem he hw hE hk) hq
    cases Pattern.readsAs_of_read he hr with
    | object _ hk hfs =>
      refine .fields (Level.isKnown_of_knows rfl hk) fun f hf => ?_
      obtain ⟨F, hF, hfield, hq⟩ := (Pattern.fieldsOf_spec hfs).2 f.1 f.2 hf
      exact hsub hF (isPlace_of_isField hfield) hq
    | array _ hk hE hq =>
      exact .elements (Level.isKnown_of_knows rfl hk) (hsub (Value.lookup_mem hE) rfl hq)
    | observable _ hk hE _ hq =>
      exact .contents (Level.isKnown_of_knows rfl hk) (hsub (Value.lookup_mem hE) rfl hq)
    | leaf _ hk => exact .leaf (Level.isKnown_of_knows rfl hk)

end

/-! ## Defects in checks -/

/-- The defect that a failure is due to, if it is not due to the value. -/
def Failure.defect? : Failure → Option Defect
  | .defect f => some f.defect
  | _ => none

@[simp] theorem Failure.defect?_under (f : Failure) (s : Step) :
    (f.under s).defect? = f.defect? := by
  cases f <;> rfl

@[simp] theorem Failure.defect?_within (f : Failure) (steps : List Step) :
    (f.within steps).defect? = f.defect? := by
  induction steps with
  | nil => rfl
  | cons s steps ih => rw [← ih]; exact defect?_under _ s

/-- The only checker that fails for another reason than the value is the one without a library. -/
theorem Checker.defect_of_run {c : Checker} {v : Value} {f : Failure} {d : Defect}
    (h : (c.run v).result = .error f) (hd : f.defect? = some d) :
    c = .observable none ∧ d = .noLibrary := by
  rcases run_error h with rfl | ⟨rfl, rfl⟩ | ⟨message, rfl⟩ | ⟨m, rfl⟩ <;> cases hd
  exact ⟨rfl, rfl⟩

/-- **Against known types a check fails with a defect only where a library is missing.** -/
theorem defect_of_fails {T : TypeTable} {p : Pattern} {v : Value} {f : Failure} {d : Defect}
    (h : Fails T p v f) (hp : p.IsKnown T) (hd : f.defect? = some d) :
    d = .noLibrary ∧ ∃ type, T.checker? type = some (.observable none) := by
  induction h with
  | @level p v f hr =>
    cases hr with
    | type _ _ _ h =>
      obtain ⟨c, hc⟩ := hp.level
      rw [TypeTable.check, hc] at h
      obtain ⟨rfl, rfl⟩ := Checker.defect_of_run h hd
      exact ⟨rfl, _, hc⟩
    | _ => cases hd
  | element _ _ _ _ ih =>
    cases hp with
    | elements _ hp => exact ih hp (by simpa using hd)
  | contents _ _ _ ih =>
    cases hp with
    | contents _ hp => exact ih hp (by simpa using hd)
  | field _ hmem _ _ ih =>
    cases hp with
    | fields _ hp => exact ih (hp _ hmem) (by simpa using hd)
  | notIterable | notCallable | raised | blocked => cases hd

/-- A report that blames the pattern or the setup comes from a defect and has its message. -/
theorem Failure.defect?_of_problem {f : Failure} {name : String} {r : Report}
    (h : f.problem name = .reported r) (hb : r.blame = .config) :
    ∃ d, f.defect? = some d ∧ r.message = d.message := by
  cases f with
  | defect g =>
    simp only [problem, Finding.problem, Defect.problem] at h
    split at h
    · cases h
      exact ⟨g.defect, rfl, rfl⟩
    · cases h
  | mismatch m steps => cases h; cases hb
  | raised | misuse => cases h

/-! ## The separation -/

/-- Whether an outcome blames the pattern or the setup. -/
def BlamesSetup (o : Except Problem Unit) : Prop :=
  ∃ r, o = .error (.reported r) ∧ r.blame = .config

section

variable {T : TypeTable} {P : Value} {name : Option String}

/-- A pattern with a defect is reported for every value alike, and nothing is shown or called. -/
theorem check_of_verification_error {e : Problem}
    (h : (verification T P).outcome name = .error e) (v : Value) :
    (check T v P).outcome name = .error e ∧ (check T v P).events = [] := by
  unfold verification at h
  unfold check
  cases hv : verify T P with
  | ok p => rw [hv] at h; cases h
  | error f => rw [hv] at h; exact ⟨h, rfl⟩

/-- What is left to blame in the setup once a pattern is verified. -/
theorem defect_of_check {p : Pattern} (hw : P.isWrittenOut = true) (hv : verify T P = .ok p)
    {v : Value} {r : Report} (h : (check T v P).outcome name = .error (.reported r))
    (hb : r.blame = .config) :
    r.message = Defect.noLibrary.message ∧ ∃ type, T.checker? type = some (.observable none) := by
  rw [check_of_verify hv] at h
  obtain ⟨f, hf, hr⟩ := Run.outcome_eq_error_iff.1 h
  obtain ⟨d, hd, hm⟩ := Failure.defect?_of_problem hr hb
  obtain ⟨rfl, ht⟩ := defect_of_fails (fails_of_check hf) (isKnown_of_read P hw hv) hd
  exact ⟨hm, ht⟩

theorem checker?_withLibrary_ne (library : Library) (type : Value) :
    (TypeTable.standard.withLibrary library).checker? type ≠ some (.observable none) := by
  cases type <;> simp only [TypeTable.checker?, ne_eq, reduceCtorEq, not_false_eq_true]
  rename_i s
  rw [TypeTable.find?_withLibrary, TypeTable.find?_standard]
  by_cases hs : s = "observable"
  · simp [hs]
  · rw [if_neg hs]
    unfold Checker.ofName?
    split <;> simp_all

/-- With a library at hand, only the verification of a pattern blames the setup. -/
theorem blamesSetup_check_iff {library : Library} (hw : P.isWrittenOut = true) (v : Value) :
    BlamesSetup ((check (.withLibrary .standard library) v P).outcome name) ↔
      BlamesSetup ((verification (.withLibrary .standard library) P).outcome name) := by
  cases hv : (verification (.withLibrary .standard library) P).outcome name with
  | error e => rw [(check_of_verification_error hv v).1]
  | ok u =>
    obtain ⟨p, hp⟩ := verification_eq_ok_iff.1 hv
    constructor
    · rintro ⟨r, hr, hb⟩
      obtain ⟨-, type, ht⟩ := defect_of_check hw hp hr hb
      exact absurd ht (checker?_withLibrary_ne library type)
    · rintro ⟨r, hr, -⟩
      cases hr

end

/-- **Pattern faults come before data faults.**  A pattern of texts and mappings with a defect is
reported for every value in the same words and at the same place, with nothing shown to the library
and nothing called.  Against a verified pattern no value makes a check blame the pattern: the setup
is blamed only for the missing library.  So with a library the values do not matter at all. -/
theorem pattern_faults_precede_values (T : TypeTable) (P : Value) (name : Option String)
    (hw : P.isWrittenOut = true) :
    (∀ e, (Engine.verify T P name).result = .error e → ∀ v,
      Engine.check T v P name = ⟨[], .error e⟩) ∧
    ((Engine.verify T P name).result = .ok () → ∀ v r,
      (Engine.check T v P name).result = .error (.reported r) → r.blame = .config → r.message =
        "Observable checking is not possible because no knockout instance is given!") ∧
    ∀ library, T = TypeTable.standard.withLibrary library → ∀ v w,
      (BlamesSetup (Engine.check T v P name).result ↔
        BlamesSetup (Engine.check T w P name).result) := by
  simp only [Engine.result_verify, Engine.result_check]
  refine ⟨fun e h v => ?_, fun h v r hr hb => ?_, ?_⟩
  · obtain ⟨hresult, hevents⟩ := check_of_verification_error h v
    rw [← Engine.result_check] at hresult
    rw [← Engine.events_check T v P name] at hevents
    rw [← hevents, ← hresult]
  · obtain ⟨p, hp⟩ := verification_eq_ok_iff.1 h
    exact (defect_of_check hw hp hr hb).1
  · rintro library rfl v w
    rw [blamesSetup_check_iff hw, blamesSetup_check_iff hw]

theorem unknown_type_precedes_absent_value :
    (Value.mapping .editable 2 [(.string "__required", .boolean false),
        (.string "a.b", .string "optional array foo")]).isWrittenOut = true ∧
      Engine.check .standard .missing (.mapping .editable 2
        [(.string "__required", .boolean false),
          (.string "a.b", .string "optional array foo")]) none =
        ⟨[], .error (.reported ⟨.config, "Unknown type: foo", none⟩)⟩ :=
  ⟨rfl, (pattern_faults_precede_values .standard _ none rfl).1 _
    ((Engine.result_verify _ _ _).trans rfl) .missing⟩

end DataShape
