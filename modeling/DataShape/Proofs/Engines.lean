import DataShape.Check
import DataShape.Engine
import DataShape.Proofs.Reading
import DataShape.Proofs.Runs

/-!
# What the engines compute

The engines walk through a pattern twice, once to verify it and once to check a value, and hand the
name down.  Both walks are those of the one pattern that a value is read as, and the name only
enters where a fault is reported.

* `Checking.found`, `Run.report` — a reading and a run as they are reported under a name.
* `Run.report_andThen`, `Run.report_under`, `Run.report_within` — a run of a part is reported like a
  run of its own, under the name of the part.
* `Engine.checkType_eq`, `Engine.resolveType_eq` — the look-up of a type.
* `Engine.verify_eq` — **verification** is the reading of a pattern.
* `Engine.forEach_eq`, `Engine.callValue_eq`, `Engine.checkAt_report` — the ways to the parts of a
  value.
* `Engine.checkString_eq`, `Engine.dispatch_eq` — against a pattern that can be read, each engine
  makes the run of what it is read as.
* `Engine.check_eq` — **a check** is the run of verification and check in one.
-/

namespace DataShape

/-! ## Sequences -/

namespace Checking

variable {α β : Type}

@[simp] theorem pure_bind (a : α) (f : α → Checking β) : (pure a >>= f) = f a := rfl

@[simp] theorem raise_bind (p : Problem) (f : α → Checking β) : (raise p >>= f) = raise p := rfl

/-- A reading as it is reported under a name. -/
def found (name : String) : Except Finding α → Checking Unit
  | .ok _ => pure ()
  | .error f => raise (f.problem name)

@[simp] theorem found_ok (name : String) (a : α) : found name (.ok a) = pure () := rfl

@[simp] theorem found_error (name : String) (f : Finding) :
    found name (.error f : Except Finding α) = raise (f.problem name) := rfl

@[simp] theorem found_map (name : String) (x : Except Finding α) (f : α → β) :
    found name (x.map f) = found name x := by
  cases x <;> rfl

/-- A reading of a part is reported like a reading of its own, under the path to the part. -/
theorem found_under (name : String) (s : Step) (x : Except Finding α) :
    found name (x.mapError (Finding.under s)) = found (name ++ s.text) x := by
  cases x with
  | ok a => rfl
  | error f =>
    have h : (f.under s).problem name = f.problem (name ++ s.text) :=
      Failure.problem_under name s (.defect f)
    simp only [mapError_error, found_error, h]

/-- One reading after another is reported like that. -/
theorem found_bind (name : String) (x : Except Finding α) (f : α → Except Finding β) :
    found name (x >>= f) =
      match x with
      | .ok a => found name (f a)
      | .error e => raise (e.problem name) := by
  cases x <;> rfl

end Checking

open Checking

/-! ## Runs as they are reported -/

/-- A defect of a pattern itself is reported under the name of the value. -/
theorem Finding.problem_here (name : String) (d : Defect) :
    (Finding.here d).problem name = d.problem (some name) := by
  simp [problem, here, stepsText]

/-- A mismatch of a value itself is reported under its name. -/
theorem Failure.problem_mismatch (name : String) (m : Mismatch) :
    (Failure.mismatch m []).problem name = .reported ⟨.pattern, m.message name, some name⟩ := by
  simp [problem, stepsText]

/-- A run as it is reported for a value with the given name. -/
def Run.report (name : String) (r : Run) : Checking Unit :=
  ⟨r.events, r.result.mapError (Failure.problem name)⟩

namespace Run

variable {r : Run} {name : String}

@[simp] theorem report_fail (f : Failure) : (fail f).report name = raise (f.problem name) := rfl

theorem report_require (b : Bool) (m : Mismatch) :
    (require b m).report name =
      if b then pure () else patternError (m.message name) name := by
  cases b
  · simp [require, mismatch, Failure.problem_mismatch, patternError]
  · rfl

theorem report_andThen (next : Unit → Run) :
    (r.andThen next).report name = r.report name >>= fun _ => (next ()).report name := by
  rcases r with ⟨events, e | ⟨⟨⟩⟩⟩ <;> rfl

theorem report_under (s : Step) : (r.under s).report name = r.report (name ++ s.text) := by
  rcases r with ⟨events, e | ⟨⟨⟩⟩⟩
  · simp [report, under, Failure.problem_under]
  · rfl

theorem report_within (steps : List Step) :
    (r.within steps).report name = r.report (name ++ stepsText steps) := by
  induction steps generalizing name with
  | nil => simp [within, stepsText]
  | cons s steps ih => rw [within_cons, report_under, ih, stepsText, String.append_assoc]

theorem seen_report : (r.report name).seen = r.seen := rfl

end Run

namespace Engine

variable {T : TypeTable}

/-! ## Types -/

/-- A message with the text of a value is the report of a defect, or cannot be written. -/
theorem spell_configError {α : Type} {d : Defect} {v : Value} {text : Value → String}
    {message : String → String} (hs : d.isShowable = v.isShowable)
    (hm : d.message = message (text v)) (path : Option String) :
    (spell text v >>= fun t => configError (message t) path : Checking α) =
      raise (d.problem path) := by
  unfold spell Defect.problem
  rw [hs, hm]
  cases v.isShowable <;> rfl

theorem require_eq (type : Value) (path : Option String) :
    require T type path =
      match T.require type with
      | .ok name => pure name
      | .error d => raise (d.problem path) := by
  have hunknown : ∀ v : Value, (do
      let text ← spell Value.text v
      configError ("Unknown type: " ++ text) path : Checking String) =
        raise ((Defect.unknownType v).problem path) :=
    fun v => spell_configError rfl rfl path
  unfold require TypeTable.require
  rw [hunknown]
  cases type with
  | string name => cases h : T.knows name <;> simp [h]
  | _ => rfl

/-- Each checker reports the mismatch that is its own. -/
theorem applyChecker_eq (c : Checker) (v : Value) (path : String) :
    applyChecker c v path = (c.run v).report path := by
  cases c with
  | ofKind kind =>
    rw [Checker.run, Run.report_require]
    cases kind with
    | array =>
      have hv : (v.kind == Kind.array) = v.members?.isSome := by
        rw [Bool.eq_iff_iff, beq_iff_eq, Value.kind_eq_array_iff]
      simp only [applyChecker, checkArray, hv, Mismatch.message, Mismatch.around,
        String.empty_append]
    | date =>
      cases v <;>
        simp [applyChecker, checkDate, Value.kind, Mismatch.message, Mismatch.around]
    | _ =>
      simp only [applyChecker, simpleChecker, Mismatch.message, Mismatch.around, beq_iff_eq,
        String.empty_append, String.append_assoc]
  | callable =>
    rw [Checker.run, Run.report_require]
    simp only [applyChecker, checkFunction, Mismatch.message, Mismatch.around, String.empty_append]
    rfl
  | observable library =>
    cases library with
    | none =>
      rw [Checker.run, Run.report_fail, Failure.problem, Finding.problem_here]
      rfl
    | some library =>
      rw [applyChecker, checkObservable, ask, Checker.run]
      cases library.recognise v with
      | no =>
        rw [Run.report, mapError_error, Failure.problem_mismatch]
        simp only [Mismatch.message, Mismatch.around, String.empty_append]
        rfl
      | _ => rfl

theorem checkType_eq (v type : Value) (path : String) :
    checkType T v type path = (T.check v type).report path := by
  rw [checkType, require_eq]
  cases type with
  | string name =>
    cases h : T.find? name with
    | none =>
      simp [TypeTable.require, TypeTable.knows, TypeTable.check, TypeTable.checker?, h,
        Failure.problem, Finding.problem_here]
    | some c =>
      simp [TypeTable.require, TypeTable.knows, TypeTable.check, TypeTable.checker?, h,
        applyChecker_eq]
  | _ =>
    simp [TypeTable.require, TypeTable.check, TypeTable.checker?, Failure.problem,
      Finding.problem_here]

theorem invalidPattern_eq (P : Value) (name : String) :
    invalidPattern P name =
      found name (.error (.here (.notAPattern P)) : Except Finding Pattern) := by
  rw [found_error, Finding.problem_here]
  exact spell_configError rfl rfl _

theorem invalidKey_eq (key : Value) (name : String) :
    invalidKey key name =
      found name (.error (.here (.keyNotString key)) : Except Finding Pattern) := by
  rw [found_error, Finding.problem_here]
  exact spell_configError rfl rfl _

/-! ## Entries -/

section

variable {key : String} {es : List (Value × Value)}
  {next : (E : Value) → sizeOf E < sizeOf es → Checking Unit}

theorem ifGiven_of_none (h : Value.lookup key es = none) : ifGiven key es next = pure () := by
  unfold ifGiven
  split
  · rename_i h'
    cases h.symm.trans h'
  · rfl

theorem ifGiven_of_some {E : Value} (h : Value.lookup key es = some E) :
    ifGiven key es next = next E (Value.sizeOf_lookup_lt h) := by
  unfold ifGiven
  split
  · rename_i h'
    cases h.symm.trans h'
    rfl
  · rename_i h'
    cases h.symm.trans h'

end

/-! ## Verification -/

/-- A mapping names its type, unless that or its allowed values are at fault. -/
theorem resolveType_eq (es : List (Value × Value)) (name : String) :
    resolveType T es name =
      match T.require (givenType es), Pattern.allowedOf (Pattern.readEntries T es) with
      | .error d, _ => raise (d.problem name)
      | .ok _, .error f => raise (f.problem name)
      | .ok type, .ok _ => pure type := by
  have hgiven : (if ((Value.lookup Keyword.type es).getD .null).truthy then
      (Value.lookup Keyword.type es).getD .null else .string defaultType) = givenType es := by
    unfold givenType
    cases Value.lookup Keyword.type es <;> rfl
  rw [resolveType]
  simp only [hgiven, require_eq]
  cases T.require (givenType es) with
  | error d => rfl
  | ok type =>
    rw [pure_bind, Pattern.allowedOf, Pattern.entryAt_readEntries, Value.getD]
    cases Value.lookup Keyword.allowedValues es with
    | none => rfl
    | some v =>
      have hfault : (configError Defect.allowedNotArray.message name : Checking String) =
          raise ((Finding.here .allowedNotArray).problem name) := by
        rw [Finding.problem_here]
        rfl
      cases v with
      | missing | sequence | callableSequence => rfl
      | _ => exact hfault

/-- The name of a part is never empty. -/
theorem labelOf_append_text (name : String) (s : Step) :
    labelOf (some (name ++ s.text)) = name ++ s.text := by
  refine labelOf_some fun h => ?_
  have hlist := congrArg String.toList h
  rw [String.toList_append] at hlist
  have htext : s.text.toList = [] := (List.append_eq_nil_iff.1 hlist).2
  cases s <;> simp [Step.text] at htext

section

variable {es : List (Value × Value)}
  (ih : ∀ e ∈ es, ∀ name, verify T e.2 name = found (labelOf name) (Pattern.read T e.2))

include ih

/-- The pattern of a part is verified like a reading of it. -/
theorem verify_part {k E : Value} (h : (k, E) ∈ es) (name : String) (s : Step) :
    verify T E (some (name ++ s.text)) =
      found name ((Pattern.read T E).mapError (Finding.under s)) := by
  rw [ih _ h, labelOf_append_text, found_under]

theorem verifyElements_eq (name : String) :
    (ifGiven Keyword.elements es fun E _ => verify T E (some (name ++ "[]"))) =
      found name (Pattern.elementsOf (Pattern.readEntries T es)) := by
  rw [Pattern.elementsOf, Pattern.entryAt_readEntries]
  cases h : Value.lookup Keyword.elements es with
  | none => rw [ifGiven_of_none h]; rfl
  | some E =>
    rw [ifGiven_of_some h]
    exact (verify_part ih (Value.lookup_mem h) name .elements).trans (found_map _ _ _).symm

theorem verifyContents_eq (name : String) :
    (ifGiven Keyword.contents es fun E _ =>
      if E.isNull then pure () else verify T E (some (name ++ "()"))) =
      found name (Pattern.contentsOf (Pattern.readEntries T es)) := by
  rw [Pattern.contentsOf, Pattern.entryAt_readEntries]
  cases h : Value.lookup Keyword.contents es with
  | none => rw [ifGiven_of_none h]; rfl
  | some E =>
    rw [ifGiven_of_some h]
    have hpart := verify_part ih (Value.lookup_mem h) name .call
    cases E with
    | null => rfl
    | _ => exact hpart.trans (found_map _ _ _).symm

theorem verifyFields_eq (name : String) :
    verifyFields T es name = found name (Pattern.fieldsOf (Pattern.readEntries T es)) := by
  induction es with
  | nil => rw [verifyFields]; rfl
  | cons e es ihes =>
    obtain ⟨k, P⟩ := e
    have hrest := ihes fun e he => ih e (List.mem_cons_of_mem _ he)
    rw [verifyFields.eq_def]
    simp only [hrest, Pattern.readEntries, Pattern.fieldsOf]
    by_cases hres : Keyword.reserves k = true
    · rw [if_pos hres, if_pos hres, pure_bind]
    rw [if_neg hres, if_neg hres]
    cases k with
    | string key =>
      have hpart := verify_part ih List.mem_cons_self name (.field key)
      rw [Step.text, ← String.append_assoc] at hpart
      simp only [hpart, found_bind]
      cases Pattern.read T P with
      | error f => rfl
      | ok p =>
        simp only [mapError_ok, found_ok, pure_bind]
        cases Pattern.fieldsOf (Pattern.readEntries T es) <;> rfl
    | _ =>
      simp only [invalidKey_eq, found_error, raise_bind]

/-- A mapping is verified like a reading of it. -/
theorem verifyObject_eq (name : String) :
    verifyObject T es name = found name (Pattern.ofEntries T (Pattern.readEntries T es)) := by
  rw [verifyObject]
  have helements := verifyElements_eq ih name
  have hcontents := verifyContents_eq ih name
  simp only [resolveType_eq, helements, hcontents, verifyFields_eq ih, Pattern.ofEntries,
    Pattern.typeOf_readEntries]
  cases T.require (givenType es) with
  | error d => simp [found_bind, Finding.problem_here]
  | ok type =>
    simp only [mapError_ok, found_bind]
    cases Pattern.allowedOf (Pattern.readEntries T es) with
    | error f => rfl
    | ok allowed =>
      simp only [pure_bind]
      cases Pattern.elementsOf (Pattern.readEntries T es) with
      | error f => rfl
      | ok each =>
        simp only [found_ok, pure_bind]
        cases Pattern.contentsOf (Pattern.readEntries T es) with
        | error f => rfl
        | ok inner =>
          simp only [found_ok, pure_bind]
          by_cases hobj : type = "object"
          · simp only [if_pos hobj, found_bind]
            cases Pattern.fieldsOf (Pattern.readEntries T es) <;> rfl
          · simp only [if_neg hobj]
            split
            · rfl
            · split <;> rfl

end

/-- **Verification is the reading of a pattern**: it finds the same defect, and does nothing. -/
theorem verify_eq (P : Value) (name : Option String) :
    verify T P name = found (labelOf name) (Pattern.read T P) := by
  induction P using Value.inductOnEntries generalizing name with
  | entries P es he ih =>
    have hverify : verify T P name = verifyObject T es (labelOf name) := by
      cases P <;> cases he <;> rw [verify]
    rw [hverify, verifyObject_eq ih, Pattern.read_of_entries he]
  | other P he =>
    cases P with
    | string s =>
      rw [verify, parse, Pattern.read]
      cases StringPattern.parse T s <;> rfl
    | prebuilt type isOptional isNullable within source =>
      rw [verify]
      rfl
    | mapping | callableMapping => cases he
    | _ =>
      simp only [verify, Pattern.read, Pattern.ofPrebuilt, invalidPattern_eq]

/-! ## Parts of values -/

/-- All that a loop runs through is checked, each under its number. -/
theorem forEachFrom_eq (check : Value → Run) (name : String) (i : Nat) (vs : List Value) :
    forEachFrom i (fun u name => (check u).report name) name vs =
      (Run.each check i vs).report name := by
  induction vs generalizing i with
  | nil => rfl
  | cons v vs ih =>
    rw [forEachFrom, Run.each, Run.report_andThen, Run.report_under, ih]
    simp only [Step.text, String.append_assoc]

theorem forEach_eq (check : Value → Run) (v : Value) (name : String) :
    forEach v name (fun u name => (check u).report name) = (checkEach check v).report name := by
  unfold forEach checkEach
  cases v.iterate? with
  | none => rfl
  | some vs => exact forEachFrom_eq check name 0 vs

theorem callValue_eq (check : Value → Run) (v : Value) (name : String) :
    (callValue v >>= fun u => (check u).report (name ++ "()")) =
      (checkCall check v).report name := by
  have hreport : ∀ u, (check u).report (name ++ "()") = ((check u).under .call).report name :=
    fun u => (Run.report_under .call).symm
  simp only [hreport]
  unfold callValue checkCall
  cases v.call <;> rfl

/-- The name grows with the key until a value is not an object. -/
theorem followKey_eq (keys : List String) (v : Value) (name : String) :
    followKey keys v name =
      match walk keys v with
      | .ok u => pure (u, name ++ stepsText (keySteps keys))
      | .error steps => patternError (name ++ stepsText steps ++ " should have object type!")
          (name ++ stepsText steps) := by
  induction keys generalizing v name with
  | nil => simp [followKey, walk, keySteps, stepsText]
  | cons key keys ih =>
    rw [followKey, walk]
    cases v.entries? with
    | none => simp [stepsText]
    | some es =>
      simp only [ih]
      cases walk keys (Value.getD key es) <;>
        simp [keySteps, stepsText, Step.text, String.append_assoc]

theorem checkAt_report (key : String) (check : Value → Run) (v : Value) (name : String) :
    (followKey (segments key) v name >>= fun u => (check u.1).report u.2) =
      (checkAt key check v).report name := by
  rw [followKey_eq, checkAt]
  cases walk (segments key) v with
  | ok u =>
    simp only [pure_bind]
    rw [Run.report_within]
  | error steps =>
    simp [Failure.problem, Mismatch.message, Mismatch.around, Kind.name, patternError]

/-! ## Levels of string patterns -/

theorem isPrebuilt_eq (P : Value) : P.isPrebuilt = (Pattern.ofPrebuilt P).isSome := by
  cases P <;> simp [Value.isPrebuilt, Pattern.ofPrebuilt]

/-- A string pattern built by hand is read level by level. -/
theorem built_of_ofPrebuilt {P : Value} {p : Pattern} (h : Pattern.ofPrebuilt P = some p) :
    ∃ type isOptional isNullable within source,
      P = .prebuilt type isOptional isNullable within source ∧
      p = match Pattern.ofPrebuilt within with
        | none => .leaf (Pattern.levelOf type isOptional isNullable)
        | some q =>
          if type.isString "array" then .elements (Pattern.levelOf type isOptional isNullable) q
          else .contents (Pattern.levelOf type isOptional isNullable) q := by
  cases P with
  | prebuilt type isOptional isNullable within source =>
    exact ⟨type, isOptional, isNullable, within, source, rfl, (Option.some.inj h).symm⟩
  | _ => cases h

/-! ## Checks -/

/-- What a level asks, as it is reported. -/
theorem report_level (l : Level) (v : Value) (parts : Unit → Run) (name : String) :
    (l.check T v parts).report name =
      match v with
      | .missing => if l.isOptional then pure () else patternError (name ++ " is mandatory!") name
      | .null =>
        if l.isNullable then pure () else patternError (name ++ " shouldn't be null!") name
      | v =>
        match l.allowed with
        | some vs => if vs.any fun a => a.admits v then pure ()
          else patternError ("The value of " ++ name ++ " is not among the allowed ones!") name
        | none => checkType T v l.type name >>= fun _ => (parts ()).report name := by
  by_cases hm : v = .missing
  · subst hm
    rw [Level.check_missing, Run.report_require]
    simp only [Mismatch.message, Mismatch.around, String.empty_append]
  by_cases hn : v = .null
  · subst hn
    rw [Level.check_null, Run.report_require]
    simp only [Mismatch.message, Mismatch.around, String.empty_append]
  cases ha : l.allowed with
  | some vs =>
    rw [Level.check_choice hm hn ha, Run.report_require]
    cases v with
    | missing => exact absurd rfl hm
    | null => exact absurd rfl hn
    | _ => rfl
  | none =>
    rw [Level.check_type hm hn ha, Run.report_andThen, ← checkType_eq]
    cases v with
    | missing => exact absurd rfl hm
    | null => exact absurd rfl hn
    | _ => rfl

/-- A level of a string pattern asks what its level asks, and then its parts. -/
theorem checkString_level {type isOptional isNullable within : Value} {source : String} {v : Value}
    {name : String} {parts : Unit → Run}
    (hparts : (if within.isPrebuilt then
        if type.isString "array" then forEach v name fun u name => checkString T within u name
        else callValue v >>= fun u => checkString T within u (name ++ "()")
      else pure ()) = (parts ()).report name) :
    checkString T (.prebuilt type isOptional isNullable within source) v name =
      ((Pattern.levelOf type isOptional isNullable).check T v parts).report name := by
  rw [report_level]
  cases v with
  | missing | null => rw [checkString]; rfl
  | _ => simp only [checkString, hparts, Pattern.levelOf]

/-- A label is its own label. -/
theorem labelOf_labelOf (name : Option String) : labelOf (some (labelOf name)) = labelOf name := by
  refine labelOf_some ?_
  unfold labelOf
  split
  · decide
  · decide
  · assumption

/-- **The string engine** makes the run of the pattern that a string pattern is read as. -/
theorem checkString_eq {P : Value} {p : Pattern} (h : Pattern.ofPrebuilt P = some p) (v : Value)
    (name : String) : checkString T P v name = (p.check T v).report name := by
  induction p using Pattern.induct generalizing P v name with
  | leaf l =>
    obtain ⟨type, o, n, within, source, rfl, hp⟩ := built_of_ofPrebuilt h
    split at hp
    · rename_i hw
      cases hp
      rw [Pattern.check]
      exact checkString_level (by rw [isPrebuilt_eq, hw]; rfl)
    · split at hp <;> cases hp
  | elements l p ih =>
    obtain ⟨type, o, n, within, source, rfl, hp⟩ := built_of_ofPrebuilt h
    split at hp
    · cases hp
    rename_i q hw
    split at hp
    · rename_i ht
      cases hp
      rw [Pattern.check]
      refine checkString_level ?_
      simp only [isPrebuilt_eq, hw, Option.isSome_some, ht, if_true, ih hw]
      exact forEach_eq (p.check T) v name
    · cases hp
  | contents l p ih =>
    obtain ⟨type, o, n, within, source, rfl, hp⟩ := built_of_ofPrebuilt h
    split at hp
    · cases hp
    rename_i q hw
    split at hp
    · cases hp
    · rename_i ht
      cases hp
      rw [Pattern.check]
      refine checkString_level ?_
      simp only [isPrebuilt_eq, hw, Option.isSome_some, ht, if_true, if_false,
        Bool.false_eq_true, ih hw]
      exact callValue_eq (p.check T) v name
  | fields l fs ih =>
    obtain ⟨type, o, n, within, source, rfl, hp⟩ := built_of_ofPrebuilt h
    split at hp
    · cases hp
    · split at hp <;> cases hp

/-- The string pattern that a text spells is checked like the text. -/
theorem dispatch_string {s : String} {sp : StringPattern} (h : StringPattern.parse T s = .ok sp)
    (v : Value) (name : String) :
    dispatch T v (.string s) name = ((Pattern.ofString sp).check T v).report name := by
  rw [dispatch, parse, h]
  exact checkString_eq (Pattern.ofPrebuilt_toValue sp) v name

/-- The entries of a mapping ask what their level asks, and then the parts. -/
theorem checkObject_level {es : List (Value × Value)} {type name : String} {v : Value}
    {parts : Unit → Run} (hres : resolveType T es name = pure type)
    (hallowed : Pattern.allowedOf (Pattern.readEntries T es) = .ok (givenChoice es))
    (hparts : checkParts T v es type name = (parts ()).report name) :
    checkObject T v es name = ((givenLevel es type).check T v parts).report name := by
  rw [report_level, checkObject, hres, pure_bind, ← hparts]
  rw [Pattern.allowedOf, Pattern.entryAt_readEntries] at hallowed
  unfold givenLevel givenChoice Value.getD
  cases hl : Value.lookup Keyword.allowedValues es with
  | none => cases v <;> rfl
  | some a =>
    rw [hl] at hallowed
    -- only what is no value or an array can stand there
    cases a with
    | missing | sequence | callableSequence => cases v <;> rfl
    | _ => cases hallowed

/-- A mapping that can be read names its type and its allowed values. -/
theorem resolveType_of_read {es : List (Value × Value)} {p : Pattern} {type : String}
    (h : Pattern.ofEntries T (Pattern.readEntries T es) = .ok p)
    (hty : givenType es = .string type) (name : String) :
    resolveType T es name = pure type ∧
      Pattern.allowedOf (Pattern.readEntries T es) = .ok (givenChoice es) := by
  obtain ⟨type', _, _, _, hty', hk, hallowed, -⟩ := Pattern.ofEntries_eq_ok_iff.1 h
  cases hty.symm.trans hty'
  refine ⟨?_, hallowed⟩
  rw [resolveType_eq, hty, TypeTable.require, if_pos hk, hallowed]

section

variable {es : List (Value × Value)}
  (ih : ∀ e ∈ es, ∀ {p : Pattern}, Pattern.read T e.2 = .ok p → ∀ v name,
    dispatch T v e.2 name = (p.check T v).report name)

include ih

theorem checkFields_eq {fs : List (String × Pattern)}
    (h : Pattern.fieldsOf (Pattern.readEntries T es) = .ok fs) (v : Value) (name : String) :
    checkFields T v es name = (Pattern.checkFields T fs v).report name := by
  induction es generalizing fs with
  | nil =>
    cases h
    rw [checkFields]
    rfl
  | cons e es ihes =>
    obtain ⟨k, P⟩ := e
    have hrest := @ihes fun e he => ih e (List.mem_cons_of_mem _ he)
    rcases Pattern.fieldsOf_cons_iff.1 h with ⟨hres, hes⟩ | ⟨key, q, gs, rfl, hkey, hq, hes, rfl⟩
    · rw [checkFields.eq_def]
      simp only [hres, if_true, pure_bind]
      exact hrest hes
    · have hdispatch := fun u => ih _ List.mem_cons_self hq u
      rw [checkFields, if_neg (not_reserves_iff.2 hkey), checkShorthand, hrest hes,
        Pattern.checkFields, Run.report_andThen, ← checkAt_report]
      simp only [hdispatch]

/-- The parts of a value are checked as the form of the pattern says. -/
theorem checkParts_eq {p : Pattern} {type : String} (hr : ReadsAs T es p)
    (hty : givenType es = .string type) (v : Value) (name : String) :
    ∃ parts : Unit → Run, checkParts T v es type name = (parts ()).report name ∧
      p.check T v = (givenLevel es type).check T v parts := by
  cases hr with
  | object hobj _ hfs =>
    cases hty.symm.trans hobj
    refine ⟨_, ?_, Pattern.check.eq_4 ..⟩
    rw [checkParts]
    exact checkFields_eq ih hfs v name
  | array harr _ hE hq =>
    cases hty.symm.trans harr
    have hdispatch := ih _ (Value.lookup_mem hE) hq
    refine ⟨_, ?_, Pattern.check.eq_2 ..⟩
    rw [checkParts, if_pos rfl, ifGiven_of_some hE]
    simp only [hdispatch]
    exact forEach_eq _ v name
  | observable hobs _ hE hn hq =>
    cases hty.symm.trans hobs
    have hdispatch := ih _ (Value.lookup_mem hE) hq
    refine ⟨_, ?_, Pattern.check.eq_3 ..⟩
    rw [checkParts, if_neg (by decide), if_neg (by decide), if_pos rfl, ifGiven_of_some hE,
      if_neg (mt Value.isNull_iff.1 hn)]
    simp only [hdispatch]
    exact callValue_eq _ v name
  | leaf htype _ hobj harr hobs =>
    cases hty.symm.trans htype
    refine ⟨_, ?_, Pattern.check.eq_1 ..⟩
    rw [checkParts, if_neg hobj]
    split
    · rename_i ht
      rw [ifGiven_of_none (harr ht)]
      rfl
    split
    · rename_i ht
      cases hE : Value.lookup Keyword.contents es with
      | none =>
        rw [ifGiven_of_none hE]
        rfl
      | some E =>
        rw [ifGiven_of_some hE, if_pos (Value.isNull_iff.2 (hobs ht E hE))]
        rfl
    · rfl

end

/-- **The object engine** and the string engine together make the run of what a pattern is read
as. -/
theorem dispatch_eq {P : Value} {p : Pattern} (h : Pattern.read T P = .ok p) (v : Value)
    (name : String) : dispatch T v P name = (p.check T v).report name := by
  induction P using Value.inductOnEntries generalizing p v name with
  | entries P es he ih =>
    have hdispatch : dispatch T v P name = checkObject T v es name := by
      cases P <;> cases he <;> rw [dispatch]
    have hread : Pattern.ofEntries T (Pattern.readEntries T es) = .ok p :=
      Pattern.read_of_entries he ▸ h
    obtain ⟨type, _, _, _, hty, -⟩ := Pattern.ofEntries_eq_ok_iff.1 hread
    obtain ⟨hres, hallowed⟩ := resolveType_of_read hread hty name
    obtain ⟨parts, hparts, hcheck⟩ := checkParts_eq ih (Pattern.readsAs_of_read he h) hty v name
    rw [hdispatch, hcheck]
    exact checkObject_level hres hallowed hparts
  | other P he =>
    rcases Pattern.read_of_no_entries he h with ⟨s, sp, rfl, hs, rfl⟩ | ⟨_, _, _, _, _, rfl, hp⟩
    · exact dispatch_string hs v name
    · rw [dispatch]
      exact checkString_eq hp v name

/-- **A check is the run of verification and check in one**, reported under the name. -/
theorem check_eq (T : TypeTable) (v P : Value) (name : Option String) :
    check T v P name = (DataShape.check T v P).report (labelOf name) := by
  rw [check, verify_eq, labelOf_labelOf, DataShape.check, DataShape.verify]
  cases h : Pattern.read T P with
  | error f => rfl
  | ok p => exact dispatch_eq h v (labelOf name)

/-- A verification is a run of its own, reported under the name. -/
theorem verify_eq_report (T : TypeTable) (P : Value) (name : Option String) :
    verify T P name = (verification T P).report (labelOf name) := by
  rw [verify_eq, verification, DataShape.verify]
  cases Pattern.read T P <;> rfl

theorem result_verify (T : TypeTable) (P : Value) (name : Option String) :
    (verify T P name).result = (verification T P).outcome name := by
  rw [verify_eq_report]
  rfl

theorem result_check (T : TypeTable) (v P : Value) (name : Option String) :
    (check T v P name).result = (DataShape.check T v P).outcome name := by
  rw [check_eq]
  rfl

theorem events_check (T : TypeTable) (v P : Value) (name : Option String) :
    (check T v P name).events = (DataShape.check T v P).events := by
  rw [check_eq]
  rfl

end Engine

end DataShape
