import DataShape.Proofs.Checks
import DataShape.Proofs.Reading

/-!
# Conformance

What it means that a value conforms to a pattern, said without an order of checks and without
places, and that a check accepts exactly the values that conform.

* `HasType` — the values of the default types.
* `StringPattern.Conforms`, `Conforms` — conformance, by recursion on the pattern.
* `check_accepts_iff_conforms` — **acceptance is conformance**, for every verified pattern, every
  value and every name, with any library or none.
-/

namespace DataShape

/-! ## Types -/

/-- The values of a default type.  Observables are what the library recognises; without a library
there are none. -/
def HasType (library : Option Library) (type : String) (v : Value) : Prop :=
  match type with
  | "array" => ∃ items, v.members? = some items
  | "boolean" => ∃ b, v = .boolean b
  | "date" => (∃ d, v = .date d) ∨ ∃ t, v = .dateTime t
  | "function" => v.call ≠ .notCallable
  | "number" => (∃ n, v = .integer n) ∨ ∃ id x, v = .float id x
  | "object" => ∃ es, v.entries? = some es
  | "observable" => ∃ l, library = some l ∧ l.recognise v = .yes
  | "string" => ∃ s, v = .string s
  | _ => False

/-- A value passes the check of a default type iff it is of that type. -/
theorem succeeds_check_standardWith {library : Option Library} {type : String} {v : Value} :
    ((TypeTable.standardWith library).check v (.string type)).succeeds = true ↔
      HasType library type v := by
  unfold HasType
  split
  case h_7 =>
    cases library with
    | none => simp [TypeTable.check, TypeTable.checker?, TypeTable.find?_standardWith, Checker.run]
    | some l =>
      cases h : l.recognise v <;>
        simp [TypeTable.check, TypeTable.checker?, TypeTable.find?_standardWith, Checker.run, h,
          Run.succeeds, Run.fail]
  case h_9 h =>
    simp_all [TypeTable.check, TypeTable.checker?, TypeTable.find?_standardWith, Checker.ofName?]
  all_goals
    simp only [TypeTable.check, TypeTable.checker?, TypeTable.find?_standardWith, Checker.ofName?,
      String.reduceEq, if_false, Checker.run, Run.succeeds_require]
    cases v <;> simp [Value.kind, Value.members?, Value.entries?, Value.isCallable, Value.call]

/-! ## Conformance -/

/-- Absent and null values conform where they are let through, all others where `rest` holds. -/
def Guarded (isOptional isNullable rest : Prop) : Value → Prop
  | .missing => isOptional
  | .null => isNullable
  | _ => rest

/-- What a dotted key leads to: the entry under each part in turn, absent where there is none.
Every value on the way has to be an object. -/
def LeadsTo : List String → Value → Value → Prop
  | [], v, u => v = u
  | key :: keys, v, u => ∃ es, v.entries? = some es ∧ LeadsTo keys (Value.getD key es) u

/-- Whether an allowed value stands for a value: it is the same object, or it is of the same kind,
not a container, and equal. -/
def Value.Matches (allowed v : Value) : Prop :=
  allowed.kind = v.kind ∧
    (allowed.isObject v = true ∨
      (v.kind ≠ .array ∧ v.kind ≠ .object ∧ allowed.eqv v = true))

/-- Whether a value conforms to a string pattern.  Elements and contents count only for the type
that has them. -/
def StringPattern.Conforms (library : Option Library) : StringPattern → Value → Prop
  | .leaf h, v =>
    Guarded (h.isOptional = true) (h.isNullable = true) (HasType library h.type v) v
  | .nest h p, v =>
    Guarded (h.isOptional = true) (h.isNullable = true)
      (HasType library h.type v ∧
        (h.type = "array" → ∀ items, v.members? = some items → ∀ u ∈ items, p.Conforms library u) ∧
        (h.type = "observable" → ∃ u, v.call = .returned u ∧ p.Conforms library u)) v

theorem Value.sizeOf_entries_lt {P : Value} {es : List (Value × Value)}
    (h : P.entries? = some es) : sizeOf es < sizeOf P := by
  cases P <;> cases h <;> simp only [mapping.sizeOf_spec, callableMapping.sizeOf_spec] <;> omega

theorem Value.sizeOf_lt_of_mem {P k v : Value} {es : List (Value × Value)}
    (hP : P.entries? = some es) (h : (k, v) ∈ es) : sizeOf v < sizeOf P := by
  have h₁ := List.sizeOf_lt_of_mem h
  have h₂ := sizeOf_entries_lt hP
  simp only [Prod.mk.sizeOf_spec] at h₁
  omega

/-- Whether a value conforms to a pattern.  A mapping lets absent values through iff `__required`
is false and null values iff `__nullable` is true; for all others its choice decides, if it gives
one, and else its type with the elements, the fields or the contents. -/
def Conforms (library : Option Library) (P v : Value) : Prop :=
  match _hP : P.entries? with
  | some es =>
    Guarded (Value.lookup Keyword.required es = some (.boolean false))
      (Value.lookup Keyword.nullable es = some (.boolean true))
      (match givenChoice es with
        | some allowed => ∃ a ∈ allowed, a.Matches v
        | none => ∃ type, givenType es = .string type ∧ HasType library type v ∧
          (type = "array" → ∀ E, Value.lookup Keyword.elements es = some E →
            ∀ items, v.members? = some items → ∀ u ∈ items, Conforms library E u) ∧
          (type = "object" → ∀ k F, (.string k, F) ∈ es → IsField k →
            ∃ u, LeadsTo (segments k) v u ∧ Conforms library F u) ∧
          (type = "observable" → ∀ E, Value.lookup Keyword.contents es = some E → E ≠ .null →
            ∃ u, v.call = .returned u ∧ Conforms library E u)) v
  | none =>
    ∃ s p, P = .string s ∧ StringPattern.parse (.standardWith library) s = .ok p ∧
      p.Conforms library v
termination_by sizeOf P
decreasing_by
  · exact Value.sizeOf_lt_of_mem _hP (Value.lookup_mem ‹_›)
  · exact Value.sizeOf_lt_of_mem _hP ‹_›
  · exact Value.sizeOf_lt_of_mem _hP (Value.lookup_mem ‹_›)

/-! ## Levels -/

theorem guarded_iff {o n r : Prop} {v : Value} :
    Guarded o n r v ↔
      (v = .missing ∧ o) ∨ (v = .null ∧ n) ∨ (v ≠ .missing ∧ v ≠ .null ∧ r) := by
  cases v <;> simp [Guarded]

theorem guarded_congr {o n r o' n' r' : Prop} {v : Value} (ho : o ↔ o') (hn : n ↔ n')
    (hr : r ↔ r') : Guarded o n r v ↔ Guarded o' n' r' v := by
  rw [guarded_iff, guarded_iff, ho, hn, hr]

theorem admits_iff_matches {a v : Value} : a.admits v = true ↔ a.Matches v := by
  unfold Value.admits Value.Matches
  cases v.kind <;> simp [Kind.isContainer]

namespace Level

variable {l : Level} {v : Value}

theorem settles_iff :
    l.Settles v ↔ (v = .missing ∧ l.isOptional = true) ∨ (v = .null ∧ l.isNullable = true) ∨
      (v ≠ .missing ∧ v ≠ .null ∧ ∃ vs, l.allowed = some vs ∧ ∃ a ∈ vs, a.admits v = true) := by
  constructor
  · intro h
    cases h with
    | missing h => exact .inl ⟨rfl, h⟩
    | null h => exact .inr (.inl ⟨rfl, h⟩)
    | choice hm hn ha h => exact .inr (.inr ⟨hm, hn, _, ha, h⟩)
  · rintro (⟨rfl, h⟩ | ⟨rfl, h⟩ | ⟨hm, hn, vs, ha, h⟩)
    · exact .missing h
    · exact .null h
    · exact .choice hm hn ha h

/-- What a level lets through, when its type is one of the default types. -/
theorem passes_iff {library : Option Library} {type : String} (hl : l.type = .string type)
    {parts : Prop} :
    (l.Settles v ∨ (l.Opens (.standardWith library) v ∧ parts)) ↔
      Guarded (l.isOptional = true) (l.isNullable = true)
        (match l.allowed with
          | some vs => ∃ a ∈ vs, a.Matches v
          | none => HasType library type v ∧ parts) v := by
  have hopens : l.Opens (.standardWith library) v ↔
      v ≠ .missing ∧ v ≠ .null ∧ l.allowed = none ∧ HasType library type v := by
    rw [← succeeds_check_standardWith, ← hl]
    exact ⟨fun h => ⟨h.1, h.2, h.3, h.4⟩, fun ⟨h₁, h₂, h₃, h₄⟩ => ⟨h₁, h₂, h₃, h₄⟩⟩
  rw [guarded_iff, settles_iff, hopens]
  cases l.allowed with
  | some vs => simp [admits_iff_matches]
  | none => simp [or_assoc, and_assoc]

end Level

/-! ## Acceptance -/

theorem walk_eq_ok_iff {keys : List String} {v u : Value} :
    walk keys v = .ok u ↔ LeadsTo keys v u := by
  induction keys generalizing v with
  | nil => simp [walk, LeadsTo]
  | cons key keys ih =>
    rw [walk, LeadsTo]
    cases v.entries? with
    | none => simp
    | some es => simp [mapError_eq_ok_iff, ih]

theorem iterate?_eq_members?_of_hasType {library : Option Library} {v : Value}
    (h : HasType library "array" v) : v.iterate? = v.members? :=
  Value.iterate?_eq_members? (Value.kind_eq_array_iff.2 (Option.isSome_iff_exists.2 h))

section

variable {library : Option Library} {v : Value}

/-- What is asked of the members of an array is asked of what a loop runs through. -/
theorem elements_iff {accepts : Value → Prop} :
    (HasType library "array" v ∧ ∃ vs, v.iterate? = some vs ∧ ∀ u ∈ vs, accepts u) ↔
      HasType library "array" v ∧ ∀ items, v.members? = some items → ∀ u ∈ items, accepts u := by
  refine and_congr_right fun h => ?_
  rw [iterate?_eq_members?_of_hasType h]
  obtain ⟨items, hi⟩ : ∃ items, v.members? = some items := h
  simp [hi]

theorem succeeds_check_ofString {p : StringPattern}
    (hp : p.Grammatical (.standardWith library)) :
    ((Pattern.ofString p).check (.standardWith library) v).succeeds = true ↔
      p.Conforms library v := by
  induction hp generalizing v with
  | @leaf h _ _ =>
    rw [Pattern.ofString, Pattern.succeeds_check_leaf, StringPattern.Conforms,
      ← and_true (Level.Opens _ _ _), Level.passes_iff rfl]
    simp [Pattern.ofHead]
  | @nest h p _ hnest _ ih =>
    rw [StringPattern.Conforms]
    by_cases ha : h.type = "array"
    · rw [Pattern.ofString, if_pos ha, Pattern.succeeds_check_elements, Level.passes_iff rfl]
      refine guarded_congr Iff.rfl Iff.rfl ?_
      simp only [Pattern.ofHead, ha, ih, elements_iff]
      simp
    · have hb : h.type = "observable" := by simpa [nestingTypes, ha] using hnest
      rw [Pattern.ofString, if_neg ha, Pattern.succeeds_check_contents, Level.passes_iff rfl]
      refine guarded_congr Iff.rfl Iff.rfl ?_
      simp [Pattern.ofHead, hb, ih]

/-- What the level of a mapping lets through, when `parts` is what its type asks of the parts. -/
theorem passes_givenLevel_iff {es : List (Value × Value)} {type : String}
    (hty : givenType es = .string type) {parts a b c : Prop}
    (hparts : HasType library type v →
      (parts ↔ (type = "array" → a) ∧ (type = "object" → b) ∧ (type = "observable" → c))) :
    ((givenLevel es type).Settles v ∨
        ((givenLevel es type).Opens (.standardWith library) v ∧ parts)) ↔
      Guarded (Value.lookup Keyword.required es = some (.boolean false))
        (Value.lookup Keyword.nullable es = some (.boolean true))
        (match givenChoice es with
          | some allowed => ∃ a ∈ allowed, a.Matches v
          | none => ∃ t, givenType es = .string t ∧ HasType library t v ∧ (t = "array" → a) ∧
              (t = "object" → b) ∧ (t = "observable" → c)) v := by
  rw [Level.passes_iff rfl]
  refine guarded_congr Pattern.any_isFalse_iff Pattern.any_isTrue_iff ?_
  show (match givenChoice es with | some vs => _ | none => _) ↔ _
  cases givenChoice es with
  | some vs => exact Iff.rfl
  | none =>
    simp only [hty, Value.string.injEq, exists_eq_left']
    exact and_congr_right hparts

/-- A pattern that is read accepts exactly the values that conform. -/
theorem succeeds_check_iff_conforms (P : Value) {p : Pattern} (hw : P.isWrittenOut = true)
    (hr : Pattern.read (.standardWith library) P = .ok p) :
    (p.check (.standardWith library) v).succeeds = true ↔ Conforms library P v := by
  induction P using Value.inductOnEntries generalizing p v with
  | other P he =>
    rw [Conforms]
    split
    · rename_i es he'
      cases he.symm.trans he'
    rcases Pattern.read_of_no_entries he hr with ⟨s, sp, rfl, hs, rfl⟩ | ⟨_, _, _, _, _, rfl, -⟩
    · rw [succeeds_check_ofString (StringPattern.grammatical_of_parse hs)]
      simp [hs]
    · cases hw
  | entries P es he ih =>
    have hsub : ∀ {k E q u}, (k, E) ∈ es → Keyword.isPlace k = true →
        Pattern.read (.standardWith library) E = .ok q →
        ((q.check (.standardWith library) u).succeeds = true ↔ Conforms library E u) :=
      fun hE hk hq => ih _ hE (Value.isWrittenOut_of_mem he hw hE hk) hq
    rw [Conforms]
    split
    · rename_i es' he'
      cases he.symm.trans he'
      cases Pattern.readsAs_of_read he hr with
      | @object fs hty _ hfs =>
        obtain ⟨hread, hfield⟩ := Pattern.fieldsOf_spec hfs
        rw [Pattern.succeeds_check_fields]
        refine passes_givenLevel_iff hty fun _ => ?_
        simp only [String.reduceEq, false_implies, true_implies, true_and, and_true]
        constructor
        · intro h k F hF hk
          obtain ⟨q, hq, hr⟩ := hread k F hF hk
          obtain ⟨u, hu, hc⟩ := h _ hq
          exact ⟨u, walk_eq_ok_iff.1 hu, (hsub hF (isPlace_of_isField hk) hr).1 hc⟩
        · rintro h ⟨k, q⟩ hq
          obtain ⟨F, hF, hk, hr⟩ := hfield k q hq
          obtain ⟨u, hu, hc⟩ := h k F hF hk
          exact ⟨u, walk_eq_ok_iff.2 hu, (hsub hF (isPlace_of_isField hk) hr).2 hc⟩
      | @array E q hty _ hE hq =>
        rw [Pattern.succeeds_check_elements]
        refine passes_givenLevel_iff hty fun ht => ?_
        rw [iterate?_eq_members?_of_hasType ht]
        obtain ⟨items, hi⟩ : ∃ items, v.members? = some items := ht
        have hiff : ∀ u, (q.check (.standardWith library) u).succeeds = true ↔
            Conforms library E u := fun u => hsub (Value.lookup_mem hE) rfl hq
        simp [hi, hE, hiff]
      | @observable E q hty _ hE hn hq =>
        rw [Pattern.succeeds_check_contents]
        refine passes_givenLevel_iff hty fun _ => ?_
        have hiff : ∀ u, (q.check (.standardWith library) u).succeeds = true ↔
            Conforms library E u := fun u => hsub (Value.lookup_mem hE) rfl hq
        simp [hE, hn, hiff]
      | @leaf type hty _ ho ha hb =>
        rw [Pattern.succeeds_check_leaf, ← and_true (Level.Opens _ _ _)]
        refine passes_givenLevel_iff hty fun _ => ?_
        refine ⟨fun _ => ⟨fun h E hE => ?_, fun h => absurd h ho, fun h E hE hn => ?_⟩,
          fun _ => trivial⟩
        · rw [ha h] at hE
          cases hE
        · exact absurd (hb h E hE) hn
    · rename_i he'
      cases he.symm.trans he'

end

/-- **Acceptance is conformance.**  Against a verified pattern of texts and mappings a check, under
whatever name, accepts exactly the values that conform, with any library or none. -/
theorem check_accepts_iff_conforms (library : Option Library) (P v : Value) (name : Option String)
    (hw : P.isWrittenOut = true)
    (hP : (verification (.standardWith library) P).outcome name = .ok ()) :
    (check (.standardWith library) v P).outcome name = .ok () ↔ Conforms library P v := by
  obtain ⟨p, hp⟩ := verification_eq_ok_iff.1 hP
  rw [check_of_verify hp, Run.outcome_eq_ok_iff]
  exact succeeds_check_iff_conforms P hw hp

/-- A pattern with a dotted field, an array, an observable and a choice. -/
def settingsPattern : Value :=
  .mapping .editable 2
    [(.string "user.tags", .string "array optional string"),
      (.string "count", .mapping .editable 3
        [(.string "__type", .string "observable"), (.string "__value", .string "nullable number")]),
      (.string "mode", .mapping .editable 4
        [(.string "__required", .boolean false),
          (.string "__allowedValues", .sequence .list 5 [.string "fast", .integer 1])])]

/-- A value for that pattern. -/
def settings : Value :=
  .mapping .readOnly 6
    [(.string "user", .mapping .editable 7
        [(.string "tags", .sequence .tuple 8 [.string "a", .missing])]),
      (.string "count", .observable 9 .null), (.string "mode", .float 10 (.finite false 1 0))]

theorem settings_conform :
    settingsPattern.isWrittenOut = true ∧
      (verification (.standardWith (some (.ofKind 1 "ko"))) settingsPattern).outcome none =
        .ok () ∧
      Conforms (some (.ofKind 1 "ko")) settingsPattern settings :=
  ⟨rfl, rfl, (check_accepts_iff_conforms _ _ _ none rfl rfl).1
    (Run.outcome_eq_ok_iff.2 (by decide +kernel))⟩

end DataShape
