import DataShape.Proofs.Culprit
import DataShape.Proofs.Libraries

/-!
# Consultations of the library

A library is consulted about values at places, and until it is first consulted it makes no
difference whether there is one.

* `Consultation`, `Pattern.consultations` — the values that a check shows to the library, each with
  the steps that lead to it.
* `map_value_consultations`, `partAt_of_mem_consultations` — they are the values that the library
  sees, and the steps lead from the checked value to them.
* `LockStep` — a run without a library against the run with one: alike without consultations, and
  else stopped at the first.  All ways of building runs respect it.
* `library_matters_once_asked` — **a library matters from its first consultation on**, and without a
  library that is where a check ends.
-/

namespace DataShape

/-- A value that is shown to the library, and the steps from the checked value to it. -/
structure Consultation where
  steps : List Step
  value : Value

namespace Consultation

/-- A consultation in a part, seen from the whole. -/
def under (s : Step) (c : Consultation) : Consultation := { c with steps := s :: c.steps }

/-- A consultation in a part several steps away. -/
def within (way : List Step) (c : Consultation) : Consultation := { c with steps := way ++ c.steps }

/-- The consultations in a run and in the one after it, which is made only if the first succeeds. -/
def inTurn (r : Run) (first next : List Consultation) : List Consultation :=
  first ++ if r.succeeds then next else []

/-- The consultations about the members of a list in order, numbered from `i`. -/
def each (check : Value → Run) (consult : Value → List Consultation) (i : Nat) :
    List Value → List Consultation
  | [] => []
  | v :: vs =>
    inTurn ((check v).under (.index i)) ((consult v).map (under (.index i)))
      (each check consult (i + 1) vs)

end Consultation

open Consultation in
/-- The consultations in the check of a level, before those about the parts of the value. -/
def Level.consultations (T : TypeTable) (l : Level) (v : Value) (parts : List Consultation) :
    List Consultation :=
  match v with
  | .missing | .null => []
  | v =>
    match l.allowed with
    | some _ => []
    | none => inTurn (T.check v l.type) ((T.check v l.type).seen.map fun u => ⟨[], u⟩) parts

namespace Pattern

open Consultation

mutual

/-- The consultations of the library in the check of a value, in order. -/
def consultations (T : TypeTable) : Pattern → Value → List Consultation
  | .leaf l, v => l.consultations T v []
  | .elements l p, v =>
    l.consultations T v (Consultation.each (fun u => check T p u) (fun u => consultations T p u) 0
      (v.iterate?.getD []))
  | .contents l p, v =>
    l.consultations T v (match v.call with
      | .returned u => (consultations T p u).map (under .call)
      | _ => [])
  | .fields l fs, v => l.consultations T v (fieldConsultations T fs v)

/-- The consultations in the check of fields in order. -/
def fieldConsultations (T : TypeTable) : List (String × Pattern) → Value → List Consultation
  | [], _ => []
  | (key, p) :: rest, v =>
    inTurn (checkAt key (fun u => check T p u) v)
      (match walk (segments key) v with
        | .ok u => (consultations T p u).map (within (keySteps (segments key)))
        | .error _ => [])
      (fieldConsultations T rest v)

end

end Pattern

/-- The consultations in a check against a pattern given as a value. -/
def consultations (T : TypeTable) (v P : Value) : List Consultation :=
  match verify T P with
  | .ok p => p.consultations T v
  | .error _ => []

theorem consultations_of_verify {T : TypeTable} {P : Value} {p : Pattern} (h : verify T P = .ok p)
    (v : Value) : consultations T v P = p.consultations T v := by
  rw [consultations, h]

/-! ## The values are those that the library sees -/

namespace Consultation

theorem map_value_under (s : Step) (cs : List Consultation) :
    (cs.map (under s)).map value = cs.map value := by
  rw [List.map_map]
  rfl

theorem map_value_within (way : List Step) (cs : List Consultation) :
    (cs.map (within way)).map value = cs.map value := by
  rw [List.map_map]
  rfl

theorem map_value_inTurn {r : Run} {next : Unit → Run} {cs ds : List Consultation}
    (hcs : cs.map value = r.seen) (hds : ds.map value = (next ()).seen) :
    (inTurn r cs ds).map value = (r.andThen next).seen := by
  rw [inTurn, List.map_append, hcs]
  cases hr : r.succeeds with
  | true =>
    rw [Run.seen_andThen_of_succeeds hr, if_pos rfl, hds]
  | false =>
    rw [Run.andThen_of_fails hr]
    simp

theorem map_value_each {check : Value → Run} {consult : Value → List Consultation}
    (h : ∀ v, (consult v).map value = (check v).seen) (i : Nat) (vs : List Value) :
    (each check consult i vs).map value = (Run.each check i vs).seen := by
  induction vs generalizing i with
  | nil => rfl
  | cons v vs ih =>
    have hv : ((consult v).map (under (.index i))).map value =
        ((check v).under (.index i)).seen := by
      rw [map_value_under, h, Run.seen_under]
    rw [Run.each, each]
    exact map_value_inTurn hv (ih (i + 1))

end Consultation

namespace Level

open Consultation

variable {T : TypeTable} {l : Level} {v : Value} {parts : Unit → Run} {ds : List Consultation}

theorem consultations_choice {vs : List Value} (h : l.allowed = some vs) :
    l.consultations T v ds = [] := by
  cases v <;> simp [consultations, h]

theorem consultations_type (hm : v ≠ .missing) (hn : v ≠ .null) (h : l.allowed = none) :
    l.consultations T v ds =
      inTurn (T.check v l.type) ((T.check v l.type).seen.map fun u => ⟨[], u⟩) ds := by
  cases v <;> simp_all [consultations]

theorem map_value_consultations (h : ds.map value = (parts ()).seen) :
    (l.consultations T v ds).map value = (l.check T v parts).seen := by
  by_cases hm : v = .missing
  · rw [hm, check_missing, Run.seen_require]
    rfl
  by_cases hn : v = .null
  · rw [hn, check_null, Run.seen_require]
    rfl
  cases ha : l.allowed with
  | some vs =>
    rw [consultations_choice ha, check_choice hm hn ha, Run.seen_require]
    rfl
  | none =>
    rw [consultations_type hm hn ha, check_type hm hn ha]
    refine map_value_inTurn ?_ h
    rw [List.map_map]
    exact List.map_id _

/-- A level consults the library about the value itself, and then, if it opens, about the parts. -/
theorem mem_consultations {c : Consultation} (h : c ∈ l.consultations T v ds) :
    c = ⟨[], v⟩ ∨ (l.Opens T v ∧ c ∈ ds) := by
  by_cases hm : v = .missing
  · rw [hm] at h
    cases h
  by_cases hn : v = .null
  · rw [hn] at h
    cases h
  cases ha : l.allowed with
  | some vs =>
    rw [consultations_choice ha] at h
    cases h
  | none =>
    rw [consultations_type hm hn ha, inTurn, List.mem_append] at h
    rcases h with h | h
    · obtain ⟨u, hu, rfl⟩ := List.mem_map.1 h
      exact .inl (congrArg _ (TypeTable.eq_of_mem_seen_check hu))
    · split at h
      · rename_i ht
        exact .inr ⟨⟨hm, hn, ha, ht⟩, h⟩
      · cases h

end Level

namespace Pattern

open Consultation

variable {T : TypeTable}

theorem map_value_fieldConsultations {fs : List (String × Pattern)}
    (h : ∀ f ∈ fs, ∀ v, (f.2.consultations T v).map value = (f.2.check T v).seen) (v : Value) :
    (fieldConsultations T fs v).map value = (checkFields T fs v).seen := by
  induction fs with
  | nil => rfl
  | cons f fs ih =>
    obtain ⟨hf, hfs⟩ := List.forall_mem_cons.1 h
    rw [fieldConsultations, checkFields]
    refine map_value_inTurn ?_ (ih hfs)
    unfold checkAt
    cases walk (segments f.1) v with
    | ok u => simp only [map_value_within, hf, Run.seen_within]
    | error steps => rfl

/-- **The consultations in a check are about the values that the library sees.** -/
theorem map_value_consultations (p : Pattern) (v : Value) :
    (p.consultations T v).map value = (p.check T v).seen := by
  induction p using Pattern.induct generalizing v with
  | leaf l => exact Level.map_value_consultations rfl
  | elements l p ih =>
    refine Level.map_value_consultations ?_
    unfold checkEach
    cases v.iterate? with
    | some vs => exact map_value_each ih 0 vs
    | none => rfl
  | contents l p ih =>
    refine Level.map_value_consultations ?_
    unfold checkCall
    rw [Run.seen_calling]
    cases v.call with
    | returned u => simp only [map_value_under, ih, Run.seen_under]
    | raised message => rfl
    | notCallable => rfl
  | fields l fs ih => exact Level.map_value_consultations (map_value_fieldConsultations ih v)

/-! ## The steps lead to the values -/

theorem mem_each {check : Value → Run} {consult : Value → List Consultation} {i : Nat}
    {vs : List Value} {c : Consultation} (h : c ∈ Consultation.each check consult i vs) :
    ∃ j u d, vs[j]? = some u ∧ d ∈ consult u ∧ c = d.under (.index (i + j)) := by
  induction vs generalizing i with
  | nil => cases h
  | cons v vs ih =>
    rw [Consultation.each, inTurn, List.mem_append] at h
    rcases h with h | h
    · obtain ⟨d, hd, rfl⟩ := List.mem_map.1 h
      exact ⟨0, v, d, rfl, hd, rfl⟩
    · split at h
      · obtain ⟨j, u, d, hj, hd, rfl⟩ := ih h
        exact ⟨j + 1, u, d, hj, hd, by rw [Nat.add_assoc, Nat.add_comm 1 j]⟩
      · cases h

theorem mem_fieldConsultations {fs : List (String × Pattern)} {v : Value} {c : Consultation}
    (h : c ∈ fieldConsultations T fs v) :
    ∃ key q u d, (key, q) ∈ fs ∧ walk (segments key) v = .ok u ∧ d ∈ q.consultations T u ∧
      c = d.within (keySteps (segments key)) := by
  induction fs with
  | nil => cases h
  | cons f fs ih =>
    obtain ⟨key, q⟩ := f
    rw [fieldConsultations, inTurn, List.mem_append] at h
    rcases h with h | h
    · split at h
      · rename_i u hu
        obtain ⟨d, hd, rfl⟩ := List.mem_map.1 h
        exact ⟨key, q, u, d, List.mem_cons_self, hu, hd, rfl⟩
      · cases h
    · split at h
      · obtain ⟨key', q', u, d, hmem, h'⟩ := ih h
        exact ⟨key', q', u, d, List.mem_cons_of_mem _ hmem, h'⟩
      · cases h

end Pattern

/-- What is consulted about in a part of a value stands in the whole where the steps lead to. -/
theorem partAt_within {way : List Step} {v u : Value} {d : Consultation}
    (hu : partAt way v = some u) (hd : partAt d.steps u = some d.value) :
    partAt (d.within way).steps v = some (d.within way).value := by
  show partAt (way ++ d.steps) v = some d.value
  rw [partAt_append, hu]
  exact hd

/-- **The steps of a consultation lead to the value that it is about.** -/
theorem Pattern.partAt_of_mem_consultations {library : Option Library} {P : Value} {p : Pattern}
    {v : Value} {c : Consultation} (hP : Pattern.read (.standardWith library) P = .ok p)
    (hc : c ∈ p.consultations (.standardWith library) v) : partAt c.steps v = some c.value := by
  induction p using Pattern.induct generalizing P v c with
  | leaf l =>
    rcases Level.mem_consultations hc with rfl | ⟨-, hc⟩
    · rfl
    · cases hc
  | elements l p ih =>
    rcases Level.mem_consultations hc with rfl | ⟨ho, hc⟩
    · rfl
    have harray : HasType library "array" v :=
      succeeds_check_standardWith.1 (type_of_elements hP ▸ ho.typed)
    rw [iterate?_eq_members?_of_hasType harray] at hc
    obtain ⟨items, hitems⟩ : ∃ items, v.members? = some items := harray
    rw [hitems, Option.getD_some] at hc
    obtain ⟨i, u, d, hi, hd, rfl⟩ := Pattern.mem_each hc
    obtain ⟨E, hE, -⟩ := isPart_of_read hP (.element i)
    have hu : partAt [.index i] v = some u := by
      rw [partAt, Step.part?, hitems]
      exact congrArg (Option.bind · (partAt [])) hi
    rw [Nat.zero_add]
    exact partAt_within hu (ih hE hd)
  | contents l p ih =>
    rcases Level.mem_consultations hc with rfl | ⟨-, hc⟩
    · rfl
    split at hc
    · rename_i u hu
      obtain ⟨d, hd, rfl⟩ := List.mem_map.1 hc
      obtain ⟨E, hE, -⟩ := isPart_of_read hP .contents
      have hu : partAt [.call] v = some u := by
        rw [partAt, Step.part?, hu]
        rfl
      exact partAt_within hu (ih hE hd)
    · cases hc
  | fields l fs ih =>
    rcases Level.mem_consultations hc with rfl | ⟨-, hc⟩
    · rfl
    obtain ⟨key, q, u, d, hmem, hu, hd, rfl⟩ := Pattern.mem_fieldConsultations hc
    obtain ⟨E, hE, -⟩ := isPart_of_read hP (.field hmem)
    exact partAt_within (partAt_of_walk hu) (ih (key, q) hmem hE hd)

/-! ## Patterns given as values -/

theorem map_value_consultations (T : TypeTable) (v P : Value) :
    (consultations T v P).map Consultation.value = (check T v P).seen := by
  cases hP : verify T P with
  | error f =>
    rw [consultations, hP, check_of_verify_error hP]
    rfl
  | ok p => rw [consultations_of_verify hP, check_of_verify hP, p.map_value_consultations]

theorem partAt_of_mem_consultations {library : Option Library} {v P : Value} {c : Consultation}
    (hc : c ∈ consultations (.standardWith library) v P) : partAt c.steps v = some c.value := by
  cases hP : verify (.standardWith library) P with
  | error f =>
    rw [consultations, hP] at hc
    cases hc
  | ok p =>
    rw [consultations_of_verify hP] at hc
    exact p.partAt_of_mem_consultations hP hc

/-! ## With a library and without -/

/-- Whether the predicate of a library can be called. -/
def Library.CanBeAsked (library : Library) : Prop := ∀ v m, library.recognise v ≠ .misused m

/-- How a run without a library goes, by the consultations in the run with one: if there are none,
both are the same, and else the run without a library stops at the first. -/
inductive LockStep (library : Library) (bare full : Run) : List Consultation → Prop
  | alike : bare = full → LockStep library bare full []
  /-- A library that says no is reported at the same place. -/
  | stopped {c rest} : bare.result = .error (.defect ⟨.noLibrary, some c.steps⟩) →
      (library.recognise c.value = .no →
        full.result = .error (.mismatch .notObservable c.steps)) →
      LockStep library bare full (c :: rest)

namespace LockStep

open Consultation

variable {library : Library} {bare full : Run} {cs ds : List Consultation}

theorem andThen {bareNext fullNext : Unit → Run} (h : LockStep library bare full cs)
    (hnext : LockStep library (bareNext ()) (fullNext ()) ds) :
    LockStep library (bare.andThen bareNext) (full.andThen fullNext) (inTurn full cs ds) := by
  cases h with
  | alike h =>
    subst h
    rw [inTurn, List.nil_append]
    cases hs : bare.succeeds with
    | false =>
      rw [Run.andThen_of_fails hs, Run.andThen_of_fails hs]
      exact .alike rfl
    | true =>
      rw [Run.andThen_of_succeeds hs, Run.andThen_of_succeeds hs, if_pos rfl]
      cases hnext with
      | alike hnext =>
        rw [hnext]
        exact .alike rfl
      | stopped hbare hfull => exact .stopped hbare hfull
  | stopped hbare hfull =>
    -- the first run without a library has failed, and so has the one with a library that says no
    rw [inTurn, List.cons_append]
    refine .stopped (Run.andThen_error_iff.2 (.inl hbare)) fun hno => ?_
    exact Run.andThen_error_iff.2 (.inl (hfull hno))

theorem under (s : Step) (h : LockStep library bare full cs) :
    LockStep library (bare.under s) (full.under s) (cs.map (.under s)) := by
  cases h with
  | alike h =>
    rw [h]
    exact .alike rfl
  | stopped hbare hfull =>
    exact .stopped (Run.under_error_iff.2 ⟨_, hbare, rfl⟩)
      fun hno => Run.under_error_iff.2 ⟨_, hfull hno, rfl⟩

theorem within (way : List Step) (h : LockStep library bare full cs) :
    LockStep library (bare.within way) (full.within way) (cs.map (.within way)) := by
  induction way with
  | nil =>
    have hnil : cs.map (Consultation.within []) = cs := List.map_id cs
    rw [hnil]
    exact h
  | cons s way ih =>
    have hcons : cs.map (Consultation.within (s :: way)) =
        (cs.map (Consultation.within way)).map (Consultation.under s) := by
      rw [List.map_map]
      rfl
    rw [hcons, Run.within_cons, Run.within_cons]
    exact ih.under s

theorem calling (v : Value) (h : LockStep library bare full cs) :
    LockStep library (.calling v bare) (.calling v full) cs := by
  cases h with
  | alike h =>
    rw [h]
    exact .alike rfl
  | stopped hbare hfull => exact .stopped hbare hfull

theorem each {bareCheck fullCheck : Value → Run} {consult : Value → List Consultation}
    (h : ∀ v, LockStep library (bareCheck v) (fullCheck v) (consult v)) (i : Nat)
    (vs : List Value) :
    LockStep library (.each bareCheck i vs) (.each fullCheck i vs)
      (Consultation.each fullCheck consult i vs) := by
  induction vs generalizing i with
  | nil => exact .alike rfl
  | cons v vs ih => exact ((h v).under (.index i)).andThen (ih (i + 1))

/-- The test of a type is the same without the library, or is the first consultation. -/
theorem test (hlib : library.CanBeAsked) (v type : Value) :
    LockStep library (TypeTable.standard.check v type)
      ((TypeTable.standardWith (some library)).check v type)
      (((TypeTable.standardWith (some library)).check v type).seen.map fun u => ⟨[], u⟩) := by
  by_cases h : type = .string "observable"
  · have hbare : TypeTable.standard.check v (.string "observable") =
        .fail (.defect (.here .noLibrary)) := rfl
    rw [h, hbare, TypeTable.check_observable, Checker.run]
    cases hr : library.recognise v with
    | yes => exact .stopped rfl fun hno => by cases hr.symm.trans hno
    | no => exact .stopped rfl fun _ => rfl
    | raised message => exact .stopped rfl fun hno => by cases hr.symm.trans hno
    | misused m => exact absurd hr (hlib v m)
  · rw [TypeTable.seen_check_of_ne_observable h, TypeTable.check_of_ne_observable h]
    exact .alike rfl

theorem level {l : Level} {v : Value} {bareParts fullParts : Unit → Run}
    (hlib : library.CanBeAsked) (h : LockStep library (bareParts ()) (fullParts ()) ds) :
    LockStep library (l.check .standard v bareParts)
      (l.check (.standardWith (some library)) v fullParts)
      (l.consultations (.standardWith (some library)) v ds) := by
  by_cases hm : v = .missing
  · rw [hm]
    exact .alike rfl
  by_cases hn : v = .null
  · rw [hn]
    exact .alike rfl
  cases ha : l.allowed with
  | some vs =>
    rw [Level.check_choice hm hn ha, Level.check_choice hm hn ha, Level.consultations_choice ha]
    exact .alike rfl
  | none =>
    rw [Level.check_type hm hn ha, Level.check_type hm hn ha, Level.consultations_type hm hn ha]
    exact (test hlib v l.type).andThen h

theorem checkFields {fs : List (String × Pattern)}
    (h : ∀ f ∈ fs, ∀ v, LockStep library (f.2.check .standard v)
      (f.2.check (.standardWith (some library)) v)
      (f.2.consultations (.standardWith (some library)) v)) (v : Value) :
    LockStep library (Pattern.checkFields .standard fs v)
      (Pattern.checkFields (.standardWith (some library)) fs v)
      (Pattern.fieldConsultations (.standardWith (some library)) fs v) := by
  induction fs with
  | nil => exact .alike rfl
  | cons f fs ih =>
    obtain ⟨hf, hfs⟩ := List.forall_mem_cons.1 h
    refine LockStep.andThen ?_ (ih hfs)
    unfold checkAt
    cases walk (segments f.1) v with
    | ok u => exact (hf u).within _
    | error steps => exact .alike rfl

end LockStep

/-- **Checks with and without a library go in lock-step** up to the first consultation. -/
theorem lockStep_check {library : Library} (hlib : library.CanBeAsked) (p : Pattern) (v : Value) :
    LockStep library (p.check .standard v) (p.check (.standardWith (some library)) v)
      (p.consultations (.standardWith (some library)) v) := by
  induction p using Pattern.induct generalizing v with
  | leaf l => exact .level hlib (.alike rfl)
  | elements l p ih =>
    refine .level hlib ?_
    unfold checkEach
    cases v.iterate? with
    | some vs => exact .each ih 0 vs
    | none => exact .alike rfl
  | contents l p ih =>
    refine .level hlib ?_
    unfold checkCall
    refine .calling v ?_
    cases v.call with
    | returned u => exact (ih u).under .call
    | raised message => exact .alike rfl
    | notCallable => exact .alike rfl
  | fields l fs ih => exact .level hlib (.checkFields ih v)

theorem lockStep_checks {library : Library} (hlib : library.CanBeAsked) (P v : Value) :
    LockStep library (check .standard v P) (check (.standardWith (some library)) v P)
      (consultations (.standardWith (some library)) v P) := by
  have hread : verify .standard P = verify (.standardWith (some library)) P :=
    read_standardWith none (some library) P
  cases hP : verify (.standardWith (some library)) P with
  | error f =>
    rw [check_of_verify_error (hread.trans hP), check_of_verify_error hP, consultations, hP]
    exact .alike rfl
  | ok p =>
    rw [check_of_verify (hread.trans hP), check_of_verify hP, consultations_of_verify hP]
    exact lockStep_check hlib p v

/-! ## The first consultation -/

/-- What is reported, with a library and without, when the first consultation is the given one. -/
theorem outcome_of_stopped {library : Library} {bare full : Run} {c : Consultation}
    {later : List Consultation} (h : LockStep library bare full (c :: later))
    (name : Option String) :
    let path := labelOf name ++ stepsText c.steps
    bare.outcome name = .error (.reported ⟨.config,
      "Observable checking is not possible because no knockout instance is given!", some path⟩) ∧
    (library.recognise c.value = .no → full.outcome name =
      .error (.reported ⟨.pattern, path ++ " has to be an observable!", some path⟩)) := by
  intro path
  cases h with
  | stopped hbare hfull =>
    refine ⟨?_, fun hno => ?_⟩
    · rw [Run.outcome, hbare]
      rfl
    · rw [Run.outcome, hfull hno, mapError_error, Failure.problem,
        message_of_around " has to be an observable!" rfl]

/-- **A library matters from its first consultation on.**  If a check with a library does not
consult it, the check without a library ends in the same way.  Otherwise the check without a library
ends with a fault of the setup, at the path under which the library was first consulted: this is the
path to the first value that it was shown, and the one reported if it says no to that value.
Verification never depends on the library, and where the type `observable` does not occur in the
pattern nothing does. -/
theorem library_matters_once_asked (library : Library) (hlib : library.CanBeAsked) (P v : Value)
    (name : Option String) :
    let bare := check .standard v P
    let full := check (.standardWith (some library)) v P
    (full.seen = [] → bare.outcome name = full.outcome name) ∧
    (full.seen ≠ [] → ∃ first later path,
      consultations (.standardWith (some library)) v P = first :: later ∧
      full.seen = (first :: later).map Consultation.value ∧
      partAt first.steps v = some first.value ∧
      path = labelOf name ++ stepsText first.steps ∧
      bare.outcome name = .error (.reported ⟨.config,
        "Observable checking is not possible because no knockout instance is given!",
        some path⟩) ∧
      (library.recognise first.value = .no → full.outcome name =
        .error (.reported ⟨.pattern, path ++ " has to be an observable!", some path⟩))) ∧
    (verification .standard P).outcome name =
      (verification (.standardWith (some library)) P).outcome name ∧
    (P.namesObservable = false → bare = full) := by
  intro bare full
  have hstep : LockStep library bare full (consultations (.standardWith (some library)) v P) :=
    lockStep_checks hlib P v
  have hvalues := map_value_consultations (.standardWith (some library)) v P
  refine ⟨fun hseen => ?_, fun hseen => ?_, ?_, fun hn => ?_⟩
  · -- nothing is shown, so there is no consultation
    rw [hseen, List.map_eq_nil_iff] at hvalues
    rw [hvalues] at hstep
    cases hstep with
    | alike h => rw [h]
  · cases hcs : consultations (.standardWith (some library)) v P with
    | nil =>
      rw [hcs] at hvalues
      exact absurd hvalues.symm hseen
    | cons first later =>
      rw [hcs] at hstep hvalues
      have hplace : partAt first.steps v = some first.value :=
        partAt_of_mem_consultations (hcs ▸ List.mem_cons_self)
      obtain ⟨hfault, hno⟩ := outcome_of_stopped hstep name
      exact ⟨first, later, _, rfl, hvalues.symm, hplace, rfl, hfault, hno⟩
  · exact congrArg (Run.outcome name) (verification_standardWith none (some library) P)
  · exact check_eq_of_not_namesObservable none (some library) hn v

/-- A queue whose second job is a number and no observable. -/
def mixedQueue : Value :=
  .mapping .editable 2
    [(.string "queue", .mapping .editable 3
      [(.string "jobs", .sequence .list 4 [.observable 5 (.integer 1), .integer 2])])]

/-- The pattern of a queue of observables, under a dotted key. -/
def queuePattern : Value :=
  .mapping .editable 6
    [(.string "queue.size", .string "optional number"),
      (.string "queue.jobs", .string "array observable number")]

theorem library_first_asked_about_first_job :
    let library := Library.ofKind 1 "ko"
    let full := check (.standardWith (some library)) mixedQueue queuePattern
    library.CanBeAsked ∧ full.seen ≠ [] ∧
      full.outcome (some "cfg") = .error (.reported ⟨.pattern,
        "cfg.queue.jobs[1] has to be an observable!", some "cfg.queue.jobs[1]"⟩) ∧
      ∃ first later path,
        consultations (.standardWith (some library)) mixedQueue queuePattern = first :: later ∧
        partAt first.steps mixedQueue = some first.value ∧
        path = "cfg" ++ stepsText first.steps ∧
        (check .standard mixedQueue queuePattern).outcome (some "cfg") =
          .error (.reported ⟨.config,
            "Observable checking is not possible because no knockout instance is given!",
            some path⟩) := by
  have hlib : (Library.ofKind 1 "ko").CanBeAsked := by
    intro v m
    show Recognition.ofBool v.isObservable ≠ _
    cases v.isObservable <;> simp [Recognition.ofBool]
  have hseen : (check (.standardWith (some (.ofKind 1 "ko"))) mixedQueue queuePattern).seen ≠ [] :=
    List.cons_ne_nil _ _
  refine ⟨hlib, hseen, by decide +kernel, ?_⟩
  have hasked :=
    (library_matters_once_asked (.ofKind 1 "ko") hlib queuePattern mixedQueue (some "cfg")).2.1
  obtain ⟨first, later, path, hfirst, -, hplace, hpath, hbare, -⟩ := hasked hseen
  exact ⟨first, later, path, hfirst, hplace, hpath, hbare⟩

end DataShape
