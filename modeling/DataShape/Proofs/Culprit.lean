import DataShape.Proofs.Conformance

/-!
# Culprits

A mismatch is reported at a place.  This file shows that the place can be reached from the checked
value, and that what is said there is true of the value found at its end.

* `Step.part?`, `partAt` — the part of a value that steps lead to.
* `IsPart`, `Governs` — the patterns inside a pattern, and the places that they are in force at.
* `Culprit` — everything that can be said against the value at a place, and when.
* `refused_by_type`, `culprit_of_refuses` — what a level says against a value is true of it.
* `culprit_of_fails` — every failing check has followed the steps that it reports.
* `mismatch_blames_culprit` — **a mismatch blames a real culprit**.
-/

namespace DataShape

/-! ## Following steps -/

/-- The part of a value that a step leads to: the entry of an object, absent if there is none, the
member of an array, or what a call returns.  The step into an element pattern leads nowhere. -/
def Step.part? : Step → Value → Option Value
  | .field key, v => v.entries?.map (Value.getD key)
  | .index i, v => v.members?.bind fun items => items[i]?
  | .call, v =>
    match v.call with
    | .returned u => some u
    | _ => none
  | .elements, _ => none

/-- The part of a value that steps lead to. -/
def partAt : List Step → Value → Option Value
  | [], v => some v
  | s :: steps, v => (s.part? v).bind (partAt steps)

theorem partAt_append {steps more : List Step} {v : Value} :
    partAt (steps ++ more) v = (partAt steps v).bind (partAt more) := by
  induction steps generalizing v with
  | nil => rfl
  | cons s steps ih =>
    rw [List.cons_append, partAt, partAt]
    cases s.part? v with
    | none => rfl
    | some u => exact ih

/-- The steps of a dotted key lead to where the walk along the key ends. -/
theorem partAt_of_walk {keys : List String} {v u : Value} (h : walk keys v = .ok u) :
    partAt (keySteps keys) v = some u := by
  induction keys generalizing v with
  | nil => cases h; rfl
  | cons key keys ih =>
    rw [walk] at h
    split at h
    · cases h
    · rename_i es he
      show ((Step.field key).part? v).bind (partAt (keySteps keys)) = some u
      rw [Step.part?, he]
      exact ih (mapError_eq_ok_iff.1 h)

/-- Where a walk is stopped, there is a value that is not an object. -/
theorem partAt_of_walk_error {keys : List String} {v : Value} {steps : List Step}
    (h : walk keys v = .error steps) : ∃ u, partAt steps v = some u ∧ u.entries? = none := by
  induction keys generalizing v steps with
  | nil => cases h
  | cons key keys ih =>
    rw [walk] at h
    split at h
    · rename_i he
      cases h
      exact ⟨v, rfl, he⟩
    · rename_i es he
      cases hw : walk keys (Value.getD key es) with
      | ok u => rw [hw] at h; cases h
      | error rest =>
        rw [hw] at h
        cases h
        obtain ⟨u, hu, hnone⟩ := ih hw
        refine ⟨u, ?_, hnone⟩
        rw [partAt, Step.part?, he]
        exact hu

/-! ## Patterns in force -/

section

variable (T : TypeTable)

/-- The patterns right inside a pattern, with the steps from a value to the part that they are
asked of.  A text has the parts of the string pattern that it spells. -/
inductive IsPart : Value → List Step → Value → Prop
  | element {P es E} (i) : P.entries? = some es → givenType es = .string "array" →
      Value.lookup Keyword.elements es = some E → IsPart P [.index i] E
  | contents {P es E} : P.entries? = some es → givenType es = .string "observable" →
      Value.lookup Keyword.contents es = some E → IsPart P [.call] E
  | field {P es k F} : P.entries? = some es → givenType es = .string "object" →
      (.string k, F) ∈ es → IsField k → IsPart P (keySteps (segments k)) F
  | builtElement {o n E s} (i) : IsPart (.prebuilt (.string "array") o n E s) [.index i] E
  | builtContents {type o n E s} : type ≠ .string "array" →
      IsPart (.prebuilt type o n E s) [.call] E
  | spelled {s p way E} : StringPattern.parse T s = .ok p → IsPart p.toValue way E →
      IsPart (.string s) way E

/-- The pattern inside a pattern that is in force where the steps lead to. -/
inductive Governs : Value → List Step → Value → Prop
  | here (P) : Governs P [] P
  | part {P way E steps Q} : IsPart T P way E → Governs E steps Q → Governs P (way ++ steps) Q

/-- The level in force where the steps lead to. -/
def Asks (P : Value) (steps : List Step) (l : Level) : Prop :=
  ∃ Q q, Governs T P steps Q ∧ verify T Q = .ok q ∧ q.level = l

end

/-- The parts of a pattern that is read, with the steps to what they are checked against. -/
inductive Pattern.HasPart : Pattern → List Step → Pattern → Prop
  | element {l q} (i) : HasPart (.elements l q) [.index i] q
  | contents {l q} : HasPart (.contents l q) [.call] q
  | field {l fs k q} : (k, q) ∈ fs → HasPart (.fields l fs) (keySteps (segments k)) q

section

variable {T : TypeTable} {P : Value} {p q : Pattern} {way : List Step}

/-- Patterns that are not mappings are string patterns, built by hand or spelled. -/
theorem built_of_read (he : P.entries? = none) (h : Pattern.read T P = .ok p) :
    ∃ type o n within s, Pattern.ofPrebuilt (.prebuilt type o n within s) = some p ∧
      ∀ way E, IsPart T (.prebuilt type o n within s) way E → IsPart T P way E := by
  rcases Pattern.read_of_no_entries he h with ⟨s, sp, rfl, hs, rfl⟩ | ⟨_, _, _, _, _, rfl, hp⟩
  · have hsp := Pattern.ofPrebuilt_toValue sp
    have hparts : ∀ way E, IsPart T sp.toValue way E → IsPart T (.string s) way E :=
      fun _ _ => .spelled hs
    cases sp with
    | leaf => exact ⟨_, _, _, _, _, hsp, hparts⟩
    | nest => exact ⟨_, _, _, _, _, hsp, hparts⟩
  · exact ⟨_, _, _, _, _, hp, fun _ _ => id⟩

theorem ofPrebuilt_cases {type o n within : Value} {s : String}
    (h : Pattern.ofPrebuilt (.prebuilt type o n within s) = some p) :
    p = .leaf (Pattern.levelOf type o n) ∨
      ∃ q, Pattern.read T within = .ok q ∧
        ((type = .string "array" ∧ p = .elements (Pattern.levelOf type o n) q) ∨
          (type ≠ .string "array" ∧ p = .contents (Pattern.levelOf type o n) q)) := by
  simp only [Pattern.ofPrebuilt, Option.some.injEq] at h
  split at h
  · exact .inl h.symm
  rename_i q hq
  refine .inr ⟨q, Pattern.read_of_ofPrebuilt hq, ?_⟩
  split at h
  · rename_i ht
    exact .inl ⟨Value.isString_iff.1 ht, h.symm⟩
  · rename_i ht
    exact .inr ⟨fun he => ht (Value.isString_iff.2 he), h.symm⟩

/-- What a part of a value is checked against is a part of the pattern. -/
theorem isPart_of_read (h : Pattern.read T P = .ok p) (hq : p.HasPart way q) :
    ∃ E, Pattern.read T E = .ok q ∧ IsPart T P way E := by
  cases he : P.entries? with
  | some es =>
    cases Pattern.readsAs_of_read he h with
    | object hty _ hfs =>
      cases hq with
      | field hk =>
        obtain ⟨F, hF, hfield, hr⟩ := (Pattern.fieldsOf_spec hfs).2 _ _ hk
        exact ⟨F, hr, .field he hty hF hfield⟩
    | array hty _ hE hr =>
      cases hq
      exact ⟨_, hr, .element _ he hty hE⟩
    | observable hty _ hE _ hr =>
      cases hq
      exact ⟨_, hr, .contents he hty hE⟩
    | leaf => cases hq
  | none =>
    obtain ⟨type, o, n, within, s, hp, hparts⟩ := built_of_read he h
    rcases ofPrebuilt_cases (T := T) hp with rfl | ⟨r, hr, ⟨rfl, rfl⟩ | ⟨ht, rfl⟩⟩
    · cases hq
    · cases hq
      exact ⟨within, hr, hparts _ _ (.builtElement _)⟩
    · cases hq
      exact ⟨within, hr, hparts _ _ (.builtContents ht)⟩

/-- Only patterns of arrays ask something of the members of a value. -/
theorem type_of_elements {l : Level} (h : Pattern.read T P = .ok (.elements l q)) :
    l.type = .string "array" := by
  cases he : P.entries? with
  | some es =>
    cases Pattern.readsAs_of_read he h with
    | array => rfl
  | none =>
    obtain ⟨type, o, n, within, s, hp, -⟩ := built_of_read he h
    rcases ofPrebuilt_cases (T := T) hp with hp | ⟨r, -, ⟨ht, hp⟩ | ⟨-, hp⟩⟩ <;> cases hp
    exact ht

/-- A choice in force is one that a mapping gives. -/
theorem choice_of_read {allowed : List Value} (h : Pattern.read T P = .ok p)
    (ha : p.level.allowed = some allowed) :
    ∃ es, P.entries? = some es ∧ givenChoice es = some allowed := by
  cases he : P.entries? with
  | some es => cases Pattern.readsAs_of_read he h <;> exact ⟨es, rfl, ha⟩
  | none =>
    obtain ⟨type, o, n, within, s, hp, -⟩ := built_of_read he h
    rcases ofPrebuilt_cases (T := T) hp with rfl | ⟨r, -, ⟨-, rfl⟩ | ⟨-, rfl⟩⟩ <;> cases ha

end

/-! ## Culprits -/

/-- What is said of a value that is not of a type, for all default types but `object`. -/
def refusal? : String → Option String
  | "array" => some " has to be an array!"
  | "boolean" => some " should have boolean type!"
  | "date" => some " has to be a date object!"
  | "function" => some " should have function type!"
  | "number" => some " should have number type!"
  | "observable" => some " has to be an observable!"
  | "string" => some " should have string type!"
  | _ => none

/-- Everything that can be said against the value at a place, which is written as `path`, and when
it can be said. -/
inductive Culprit (library : Option Library) (P : Value) (steps : List Step) (path : String) :
    Value → String → Prop
  | absent {l} : Asks (.standardWith library) P steps l → l.isOptional = false →
      Culprit library P steps path .missing (path ++ " is mandatory!")
  | null {l} : Asks (.standardWith library) P steps l → l.isNullable = false →
      Culprit library P steps path .null (path ++ " shouldn't be null!")
  /-- Said of objects in force and of all values on the way to a field. -/
  | notObject {u} : u.entries? = none →
      Culprit library P steps path u (path ++ " should have object type!")
  | otherType {u l type text} : u ≠ .missing → u ≠ .null →
      Asks (.standardWith library) P steps l → l.type = .string type → refusal? type = some text →
      ¬ HasType library type u → Culprit library P steps path u (path ++ text)
  | notAllowed {u Q es allowed} : u ≠ .missing → u ≠ .null →
      Governs (.standardWith library) P steps Q → Q.entries? = some es →
      givenChoice es = some allowed → (∀ a ∈ allowed, ¬ a.Matches u) →
      Culprit library P steps path u ("The value of " ++ path ++ " is not among the allowed ones!")

section

variable {library : Option Library} {P : Value} {path : String}

/-- What can be said of a part of a value against a part of the pattern can be said of it within
the whole. -/
theorem Culprit.part {way steps : List Step} {E u : Value} {message : String}
    (hpart : IsPart (.standardWith library) P way E)
    (h : Culprit library E steps path u message) :
    Culprit library P (way ++ steps) path u message := by
  have hasks : ∀ {l}, Asks (.standardWith library) E steps l →
      Asks (.standardWith library) P (way ++ steps) l := by
    rintro l ⟨Q, q, hQ, hq, hl⟩
    exact ⟨Q, q, .part hpart hQ, hq, hl⟩
  cases h with
  | absent hl ho => exact .absent (hasks hl) ho
  | null hl hn => exact .null (hasks hl) hn
  | notObject hu => exact .notObject hu
  | otherType hm hn hl ht htext hu => exact .otherType hm hn (hasks hl) ht htext hu
  | notAllowed hm hn hQ hes hc hu => exact .notAllowed hm hn (.part hpart hQ) hes hc hu

theorem message_of_around {m : Mismatch} (text : String) (h : m.around = ("", text))
    (path : String) : m.message path = path ++ text := by
  rw [Mismatch.message, h, String.empty_append]

theorem mismatch_of_run {c : Checker} {u : Value} {m : Mismatch} {steps : List Step}
    (h : (c.run u).result = .error (.mismatch m steps)) : steps = [] ∧ m = c.mismatch := by
  rcases Checker.run_error h with hf | ⟨-, hf⟩ | ⟨message, hf⟩ | ⟨m, hf⟩ <;> cases hf
  exact ⟨rfl, rfl⟩

/-- What the checker of a default type says is what is to be said of values that are not of it. -/
theorem refusal_of_find? {type : String} {c : Checker} {u : Value} {m : Mismatch}
    {steps : List Step} (hc : (TypeTable.standardWith library).find? type = some c)
    (h : (c.run u).result = .error (.mismatch m steps)) :
    (type = "object" ∧ m = .notOfKind .object) ∨
      ∃ text, refusal? type = some text ∧ ∀ path, m.message path = path ++ text := by
  obtain ⟨-, rfl⟩ := mismatch_of_run h
  rw [TypeTable.find?_standardWith] at hc
  split at hc
  · rename_i ht
    cases hc
    rw [ht]
    exact .inr ⟨_, rfl, message_of_around _ rfl⟩
  unfold Checker.ofName? at hc
  split at hc <;> cases hc
  case h_6 => exact .inl ⟨rfl, rfl⟩
  all_goals exact .inr ⟨_, rfl, message_of_around _ rfl⟩

/-- A culprit in a part of the value is one in the whole, as long as the way to the part is the one
that the pattern takes. -/
theorem culprit_in_part {way rest : List Step} {v u E : Value} {message : String}
    (hu : partAt way v = some u) (hpart : IsPart (.standardWith library) P way E)
    (h : ∃ w, partAt rest u = some w ∧ Culprit library E rest path w message) :
    ∃ w, partAt (way ++ rest) v = some w ∧ Culprit library P (way ++ rest) path w message := by
  obtain ⟨w, hw, hc⟩ := h
  refine ⟨w, ?_, hc.part hpart⟩
  rw [partAt_append, hu]
  exact hw

/-- A value that a type refuses is not of that type, and this is what is said. -/
theorem refused_by_type {u t : Value} {m : Mismatch} {steps : List Step}
    (h : ((TypeTable.standardWith library).check u t).result = .error (.mismatch m steps)) :
    steps = [] ∧ ∃ type, t = .string type ∧ ¬ HasType library type u ∧
      ((type = "object" ∧ m = .notOfKind .object) ∨
        ∃ text, refusal? type = some text ∧ ∀ path, m.message path = path ++ text) := by
  cases hc : (TypeTable.standardWith library).checker? t with
  | none =>
    rw [TypeTable.check, hc] at h
    cases h
  | some c =>
    cases t with
    | string type =>
      have hu : ¬ HasType library type u := by
        rw [← succeeds_check_standardWith, Run.succeeds_iff, h]
        simp
      rw [TypeTable.check, hc] at h
      exact ⟨(mismatch_of_run h).1, type, rfl, hu, refusal_of_find? hc h⟩
    | _ => cases hc

theorem culprit_of_refuses {p : Pattern} {u : Value} {m : Mismatch} {steps : List Step}
    (hP : Pattern.read (.standardWith library) P = .ok p)
    (h : p.level.Refuses (.standardWith library) u (.mismatch m steps)) :
    steps = [] ∧ Culprit library P [] path u (m.message path) := by
  have hasks : Asks (.standardWith library) P [] p.level := ⟨P, p, .here P, hP, rfl⟩
  cases h with
  | missing ho =>
    rw [message_of_around " is mandatory!" rfl]
    exact ⟨rfl, .absent hasks ho⟩
  | null hn =>
    rw [message_of_around " shouldn't be null!" rfl]
    exact ⟨rfl, .null hasks hn⟩
  | choice hm hn ha hu =>
    obtain ⟨es, hes, hc⟩ := choice_of_read hP ha
    refine ⟨rfl, .notAllowed hm hn (.here P) hes hc fun a hmem hmatch => ?_⟩
    have := hu a hmem
    rw [admits_iff_matches.2 hmatch] at this
    cases this
  | type hm hn _ h =>
    obtain ⟨rfl, type, ht, hu, ⟨rfl, rfl⟩ | ⟨text, htext, hmessage⟩⟩ := refused_by_type h
    · rw [message_of_around " should have object type!" rfl]
      refine ⟨rfl, .notObject ?_⟩
      simpa [HasType, Option.eq_none_iff_forall_ne_some] using hu
    · rw [hmessage]
      exact ⟨rfl, .otherType hm hn hasks ht htext hu⟩

/-- **A check that fails with a mismatch has found a culprit**, at the place that it reports. -/
theorem culprit_of_fails {p : Pattern} {v : Value} {f : Failure}
    (h : Fails (.standardWith library) p v f) {m : Mismatch} {steps : List Step}
    (hP : Pattern.read (.standardWith library) P = .ok p) (hf : f = .mismatch m steps) :
    ∃ u, partAt steps v = some u ∧ Culprit library P steps path u (m.message path) := by
  induction h generalizing P m steps with
  | @level p v f hr =>
    subst hf
    obtain ⟨rfl, hc⟩ := culprit_of_refuses hP hr
    exact ⟨v, rfl, hc⟩
  | @element l p v vs i u f ho hvs hi _ ih =>
    obtain ⟨rest, hrest, rfl⟩ := Failure.under_eq_mismatch hf
    obtain ⟨E, hE, hpart⟩ := isPart_of_read hP (.element i)
    have harray : HasType library "array" v :=
      succeeds_check_standardWith.1 (type_of_elements hP ▸ ho.typed)
    have hu : partAt [.index i] v = some u := by
      rw [partAt, Step.part?, ← iterate?_eq_members?_of_hasType harray, hvs]
      exact congrArg (Option.bind · (partAt [])) hi
    exact culprit_in_part hu hpart (ih hE hrest)
  | @contents l p v u f ho hu _ ih =>
    obtain ⟨rest, hrest, rfl⟩ := Failure.under_eq_mismatch hf
    obtain ⟨E, hE, hpart⟩ := isPart_of_read hP .contents
    have hu : partAt [.call] v = some u := by
      rw [partAt, Step.part?, hu]
      rfl
    exact culprit_in_part hu hpart (ih hE hrest)
  | @field l fs v key p u f ho hmem hu _ ih =>
    obtain ⟨rest, hrest, rfl⟩ := Failure.within_eq_mismatch hf
    obtain ⟨E, hE, hpart⟩ := isPart_of_read hP (.field hmem)
    exact culprit_in_part (partAt_of_walk hu) hpart (ih hE hrest)
  | @blocked l fs v key p steps ho hmem hs =>
    cases hf
    obtain ⟨u, hu, hnone⟩ := partAt_of_walk_error hs
    rw [message_of_around " should have object type!" rfl]
    exact ⟨u, hu, .notObject hnone⟩
  | notIterable | notCallable | raised => cases hf

end

/-- A report against a value comes from a mismatch, and gives its place under the name. -/
theorem mismatch_of_problem {f : Failure} {name message : String} {path : Option String}
    (h : f.problem name = .reported ⟨.pattern, message, path⟩) :
    ∃ m steps, f = .mismatch m steps ∧ path = some (name ++ stepsText steps) ∧
      message = m.message (name ++ stepsText steps) := by
  cases f with
  | defect g =>
    simp only [Failure.problem, Finding.problem, Defect.problem] at h
    split at h <;> cases h
  | mismatch m steps =>
    cases h
    exact ⟨m, steps, rfl, rfl, rfl⟩
  | raised | misuse => cases h

/-- **A mismatch blames a real culprit.**  The path of what is reported against a value is its name
with steps to fields, members and the results of calls.  These steps can be followed from the value,
and what the message says is true of the value at their end. -/
theorem mismatch_blames_culprit (library : Option Library) (v P : Value) (name : String)
    (hname : name ≠ "") (message : String) (path : Option String)
    (h : (check (.standardWith library) v P).outcome (some name) =
      .error (.reported ⟨.pattern, message, path⟩)) :
    ∃ steps u p, path = some p ∧ p = name ++ stepsText steps ∧ partAt steps v = some u ∧
      Culprit library P steps p u message := by
  obtain ⟨f, hf, hproblem⟩ := Run.outcome_eq_error_iff.1 h
  rw [labelOf_some hname] at hproblem
  obtain ⟨m, steps, rfl, rfl, rfl⟩ := mismatch_of_problem hproblem
  cases hP : verify (.standardWith library) P with
  | error g =>
    rw [check, hP] at hf
    cases hf
  | ok p =>
    rw [check_of_verify hP] at hf
    obtain ⟨u, hu, hc⟩ := culprit_of_fails (fails_of_check hf) hP rfl
    exact ⟨steps, u, _, rfl, rfl, hu, hc⟩

/-- A pattern with a choice inside an array that an observable holds. -/
def jobsPattern : Value :=
  .mapping .editable 2
    [(.string "queue.jobs", .mapping .editable 3
      [(.string "__type", .string "observable"),
        (.string "__value", .mapping .editable 4
          [(.string "__type", .string "array"),
            (.string "__elements", .mapping .editable 5
              [(.string "__allowedValues", .sequence .list 6 [.string "fast", .integer 1])])])])]

/-- The second job is the truth value, not the number that equals it. -/
def jobs : Value :=
  .mapping .editable 7
    [(.string "queue", .mapping .readOnly 8
      [(.string "jobs",
        .observable 9 (.sequence .tuple 10 [.float 11 (.finite false 1 0), .boolean true]))])]

theorem second_job_is_culprit :
    "cfg" ≠ "" ∧
      (check (.standardWith (some (.ofKind 1 "ko"))) jobs jobsPattern).outcome (some "cfg") =
        .error (.reported ⟨.pattern,
          "The value of cfg.queue.jobs()[1] is not among the allowed ones!",
          some "cfg.queue.jobs()[1]"⟩) ∧
      ∃ steps u p, some "cfg.queue.jobs()[1]" = some p ∧ p = "cfg" ++ stepsText steps ∧
        partAt steps jobs = some u ∧
        Culprit (some (.ofKind 1 "ko")) jobsPattern steps p u
          "The value of cfg.queue.jobs()[1] is not among the allowed ones!" :=
  ⟨by decide, by decide +kernel,
    mismatch_blames_culprit _ _ _ _ (by decide) _ _ (by decide +kernel)⟩

end DataShape
