import DataShape.Proofs.Culprit
import DataShape.Proofs.PatternFaults

/-!
# String patterns built by hand

A verification takes a string pattern that was built by hand as it is.

* `Value.replaceBuilt`, `verification_replaceBuilt` — for a verification it makes no difference
  which string patterns built by hand stand in a pattern.
* `BuiltSoundly` — those that are in force have known types, and contents only where texts may have
  some.  Patterns of texts and mappings are like this: `builtSoundly_of_isWrittenOut`.
* `isKnown_of_sound`, `type_of_contents` — then all levels have known types, and only patterns of
  observables ask something of the result of a call.
* `accepted_of_called` — whatever is called was accepted as an observable.
* `sound_built_patterns_keep_faults_apart` — **with sound string patterns a verified pattern blames
  the setup for a missing library only, and calls observables only**.
* `unsound_built_patterns_are_verified` — without, neither is so.
-/

namespace DataShape

/-! ## What a verification does not see -/

mutual

/-- The pattern in which another one stands for each string pattern built by hand, wherever a
verification looks. -/
def Value.replaceBuilt (Q : Value) : Value → Value
  | .prebuilt _ _ _ _ _ => Q
  | .mapping form id es => .mapping form id (replaceBuiltIn Q es)
  | .callableMapping id es result => .callableMapping id (replaceBuiltIn Q es) result
  | P => P

/-- The same in the entries of a mapping. -/
def Value.replaceBuiltIn (Q : Value) : List (Value × Value) → List (Value × Value)
  | [] => []
  | (k, P) :: rest =>
    (k, if Keyword.isPlace k then Value.replaceBuilt Q P else P) :: replaceBuiltIn Q rest

end

namespace Value

variable {Q P : Value} {es : List (Value × Value)}

theorem lookup_replaceBuiltIn {key : String} (hk : Keyword.isPlace (.string key) = false) :
    lookup key (replaceBuiltIn Q es) = lookup key es := by
  induction es with
  | nil => rfl
  | cons e es ih =>
    obtain ⟨k, P⟩ := e
    rw [replaceBuiltIn, lookup, lookup, ih]
    by_cases h : k.isString key = true
    · rw [if_pos h, if_pos h, isString_iff.1 h, if_neg (by simp [hk])]
    · rw [if_neg h, if_neg h]

theorem lookup_replaceBuiltIn_of_isPlace {key : String}
    (hk : Keyword.isPlace (.string key) = true) :
    lookup key (replaceBuiltIn Q es) = (lookup key es).map (replaceBuilt Q) := by
  induction es with
  | nil => rfl
  | cons e es ih =>
    obtain ⟨k, P⟩ := e
    rw [replaceBuiltIn, lookup, lookup, ih]
    by_cases h : k.isString key = true
    · rw [if_pos h, if_pos h, isString_iff.1 h, if_pos hk, Option.map_some]
    · rw [if_neg h, if_neg h]

theorem entries?_replaceBuilt (h : P.entries? = some es) :
    (replaceBuilt Q P).entries? = some (replaceBuiltIn Q es) := by
  cases P <;> cases h <;> rfl

theorem replaceBuilt_eq_null_iff (hQ : (Pattern.ofPrebuilt Q).isSome = true) :
    replaceBuilt Q P = .null ↔ P = .null := by
  cases P with
  | prebuilt =>
    refine ⟨fun h => ?_, nofun⟩
    rw [replaceBuilt] at h
    subst h
    cases hQ
  | null => rfl
  | _ => exact ⟨nofun, nofun⟩

end Value

/-- How a reading ends, but for the pattern that is read. -/
def verdictOf {α : Type} (x : Except Finding α) : Except Finding Unit := x.map fun _ => ()

section

variable {α β : Type} {x y : Except Finding α}

theorem verdictOf_mapError (h : verdictOf x = verdictOf y) (f : Finding → Finding) :
    verdictOf (x.mapError f) = verdictOf (y.mapError f) := by
  cases x <;> cases y <;> simp_all [verdictOf, Except.map]

theorem verdictOf_map (h : verdictOf x = verdictOf y) (f g : α → β) :
    verdictOf (x.map f) = verdictOf (y.map g) := by
  cases x <;> cases y <;> simp_all [verdictOf, Except.map]

theorem verdictOf_bind {f g : α → Except Finding β} (h : verdictOf x = verdictOf y)
    (hfg : ∀ a b, verdictOf (f a) = verdictOf (g b)) :
    verdictOf (x >>= f) = verdictOf (y >>= g) := by
  cases x with
  | ok a =>
    cases y with
    | ok b => exact hfg a b
    | error e => cases h
  | error d =>
    cases y with
    | ok b => cases h
    | error e => cases h; rfl

end

namespace Pattern

variable {T : TypeTable} {Q : Value} {es : List (Value × Value)}

theorem typeOf_replaceBuiltIn :
    typeOf (readEntries T (Value.replaceBuiltIn Q es)) = typeOf (readEntries T es) := by
  rw [typeOf_readEntries, typeOf_readEntries, givenType, givenType,
    Value.lookup_replaceBuiltIn (by decide)]

theorem allowedOf_replaceBuiltIn :
    allowedOf (readEntries T (Value.replaceBuiltIn Q es)) = allowedOf (readEntries T es) := by
  unfold allowedOf
  rw [entryAt_readEntries, entryAt_readEntries, Value.lookup_replaceBuiltIn (by decide)]

section

variable (hsub : ∀ k P, (k, P) ∈ es →
  verdictOf (read T (Value.replaceBuilt Q P)) = verdictOf (read T P))

include hsub

theorem verdictOf_elementsOf :
    verdictOf (elementsOf (readEntries T (Value.replaceBuiltIn Q es))) =
      verdictOf (elementsOf (readEntries T es)) := by
  unfold elementsOf
  rw [entryAt_readEntries, entryAt_readEntries, Value.lookup_replaceBuiltIn_of_isPlace (by decide)]
  cases hE : Value.lookup Keyword.elements es with
  | none => rfl
  | some E =>
    have hE' := hsub _ E (Value.lookup_mem hE)
    exact verdictOf_map (verdictOf_mapError hE' _) _ _

theorem verdictOf_contentsOf (hQ : (ofPrebuilt Q).isSome = true) :
    verdictOf (contentsOf (readEntries T (Value.replaceBuiltIn Q es))) =
      verdictOf (contentsOf (readEntries T es)) := by
  unfold contentsOf
  rw [entryAt_readEntries, entryAt_readEntries, Value.lookup_replaceBuiltIn_of_isPlace (by decide)]
  cases hE : Value.lookup Keyword.contents es with
  | none => rfl
  | some E =>
    have hE' := hsub _ E (Value.lookup_mem hE)
    simp only [Option.map_some]
    by_cases hn : E = .null
    · subst hn
      rfl
    · have hn' : Value.replaceBuilt Q E ≠ .null :=
        fun h => hn ((Value.replaceBuilt_eq_null_iff hQ).1 h)
      have h := verdictOf_map (verdictOf_mapError hE' (Finding.under .call)) some some
      split
      · contradiction
      · exact h

theorem verdictOf_fieldsOf :
    verdictOf (fieldsOf (readEntries T (Value.replaceBuiltIn Q es))) =
      verdictOf (fieldsOf (readEntries T es)) := by
  induction es with
  | nil => rfl
  | cons e es ih =>
    obtain ⟨k, P⟩ := e
    have hrest := ih fun k' P' hmem => hsub k' P' (List.mem_cons_of_mem _ hmem)
    rw [Value.replaceBuiltIn, readEntries, readEntries, fieldsOf, fieldsOf]
    by_cases hres : Keyword.reserves k = true
    · rw [if_pos hres, if_pos hres]
      exact hrest
    · rw [if_neg hres, if_neg hres]
      cases k with
      | string key =>
        have hP := hsub _ P List.mem_cons_self
        rw [if_pos (isPlace_of_isField (not_reserves_iff.1 hres))]
        exact verdictOf_bind (verdictOf_mapError hP _) fun _ _ =>
          verdictOf_bind hrest fun _ _ => rfl
      | _ => rfl

theorem verdictOf_ofEntries (hQ : (ofPrebuilt Q).isSome = true) :
    verdictOf (ofEntries T (readEntries T (Value.replaceBuiltIn Q es))) =
      verdictOf (ofEntries T (readEntries T es)) := by
  unfold ofEntries
  rw [typeOf_replaceBuiltIn, allowedOf_replaceBuiltIn]
  cases (T.require (typeOf (readEntries T es))).mapError Finding.here with
  | error f => rfl
  | ok type =>
    cases allowedOf (readEntries T es) with
    | error f => rfl
    | ok allowed =>
      change verdictOf (elementsOf _ >>= _) = verdictOf (elementsOf _ >>= _)
      refine verdictOf_bind (verdictOf_elementsOf hsub) fun each each' =>
        verdictOf_bind (verdictOf_contentsOf hsub hQ) fun inner inner' => ?_
      split
      · exact verdictOf_bind (verdictOf_fieldsOf hsub) fun _ _ => rfl
      split
      · rfl
      split <;> rfl

end

end Pattern

/-- Whichever string patterns built by hand stand in a pattern, its reading ends alike. -/
theorem verdictOf_replaceBuilt {T : TypeTable} {Q : Value}
    (hQ : (Pattern.ofPrebuilt Q).isSome = true) (P : Value) :
    verdictOf (Pattern.read T (Value.replaceBuilt Q P)) = verdictOf (Pattern.read T P) := by
  induction P using Value.inductOnEntries with
  | entries P es he ih =>
    rw [Pattern.read_of_entries he, Pattern.read_of_entries (Value.entries?_replaceBuilt he)]
    exact Pattern.verdictOf_ofEntries (fun k P hmem => ih (k, P) hmem) hQ
  | other P he =>
    cases P with
    | prebuilt type o n within s =>
      obtain ⟨q, hq⟩ := Option.isSome_iff_exists.1 hQ
      rw [Value.replaceBuilt, Pattern.read_of_ofPrebuilt hq]
      rfl
    | mapping | callableMapping => cases he
    | _ => rfl

/-- **A verification does not look into string patterns built by hand**: it ends alike whichever of
them stands in their place. -/
theorem verification_replaceBuilt (T : TypeTable) {Q : Value}
    (hQ : (Pattern.ofPrebuilt Q).isSome = true) (P : Value) (name : Option String) :
    (verification T (Value.replaceBuilt Q P)).outcome name = (verification T P).outcome name := by
  have h := verdictOf_replaceBuilt (T := T) hQ P
  unfold verification verify
  generalize Pattern.read T (Value.replaceBuilt Q P) = x at h ⊢
  cases hP : Pattern.read T P <;> rw [hP] at h <;> cases x <;> cases h <;> rfl

/-! ## Sound string patterns -/

/-- The string patterns built by hand that are in force somewhere in a pattern have known types, and
contents only for arrays and observables. -/
def BuiltSoundly (T : TypeTable) (P : Value) : Prop :=
  ∀ steps type o n within s, Governs T P steps (.prebuilt type o n within s) →
    ∃ name, type = .string name ∧ T.knows name = true ∧
      ((Pattern.ofPrebuilt within).isSome = true → name ∈ nestingTypes)

section

variable {T : TypeTable} {P : Value} {p q : Pattern}

/-- What is in force in a part is in force in the whole. -/
theorem BuiltSoundly.part {way : List Step} {E : Value} (h : BuiltSoundly T P)
    (hE : IsPart T P way E) : BuiltSoundly T E :=
  fun steps type o n within s hQ => h (way ++ steps) type o n within s (.part hE hQ)

/-- The only part of a string pattern built by hand is the pattern of its contents. -/
theorem eq_within_of_isPart {type o n within E : Value} {s : String} {way : List Step}
    (h : IsPart T (.prebuilt type o n within s) way E) : E = within := by
  generalize hP : Value.prebuilt type o n within s = P at h
  cases h with
  | builtElement | builtContents => cases hP; rfl
  | element _ he | contents he | field he => subst hP; cases he
  | spelled => cases hP

/-- What a text spells is sound as a string pattern built by hand. -/
theorem builtSoundly_toValue {sp : StringPattern} (h : sp.Grammatical T) :
    BuiltSoundly T sp.toValue := by
  induction h with
  | @leaf h hk _ =>
    intro steps type o n within s hQ
    cases hQ with
    | here => exact ⟨h.type, rfl, hk, nofun⟩
    | part hE hQ =>
      cases eq_within_of_isPart hE
      cases hQ with
      | part hE _ => nomatch hE
  | @nest h sp hk hnest _ ih =>
    intro steps type o n within s hQ
    cases hQ with
    | here => exact ⟨h.type, rfl, hk, fun _ => hnest⟩
    | part hE hQ =>
      cases eq_within_of_isPart hE
      exact ih _ _ _ _ _ _ hQ

/-- The string patterns in a mapping are those in its entries. -/
theorem builtSoundly_of_entries {es : List (Value × Value)} (he : P.entries? = some es)
    (h : ∀ k E, (k, E) ∈ es → Keyword.isPlace k = true → BuiltSoundly T E) :
    BuiltSoundly T P := by
  intro steps type o n within s hQ
  cases hQ with
  | here => cases he
  | part hE hQ =>
    cases hE with
    | element _ he' _ hE =>
      cases he.symm.trans he'
      exact h _ _ (Value.lookup_mem hE) rfl _ _ _ _ _ _ hQ
    | contents he' _ hE =>
      cases he.symm.trans he'
      exact h _ _ (Value.lookup_mem hE) rfl _ _ _ _ _ _ hQ
    | field he' _ hF hk =>
      cases he.symm.trans he'
      exact h _ _ hF (isPlace_of_isField hk) _ _ _ _ _ _ hQ
    | builtElement | builtContents | spelled => cases he

/-- A pattern of texts and mappings has no other string patterns than those that texts spell. -/
theorem builtSoundly_of_isWrittenOut (P : Value) (hw : P.isWrittenOut = true) :
    BuiltSoundly T P := by
  induction P using Value.inductOnEntries with
  | entries P es he ih =>
    exact builtSoundly_of_entries he fun k E hE hk =>
      ih (k, E) hE (Value.isWrittenOut_of_mem he hw hE hk)
  | other P he =>
    intro steps type o n within s hQ
    cases hQ with
    | here => cases hw
    | part hE hQ =>
      cases hE with
      | element _ he' | contents he' | field he' => cases he.symm.trans he'
      | builtElement | builtContents => cases hw
      | spelled hs hE =>
        have hsound := builtSoundly_toValue (StringPattern.grammatical_of_parse hs)
        exact hsound.part hE _ _ _ _ _ _ hQ

/-! ## What is asked, and of what -/

theorem isKnown_level_of_sound (hr : Pattern.read T P = .ok p) (hs : BuiltSoundly T P) :
    p.level.IsKnown T := by
  cases he : P.entries? with
  | some es =>
    cases Pattern.readsAs_of_read he hr with
    | object _ hk | array _ hk | observable _ hk | leaf _ hk => exact Level.isKnown_of_knows rfl hk
  | none =>
    rcases Pattern.read_of_no_entries he hr with
      ⟨s, sp, rfl, hsp, rfl⟩ | ⟨type, o, n, w, s, rfl, hp⟩
    · exact (isKnown_ofString (StringPattern.grammatical_of_parse hsp)).level
    · obtain ⟨name, rfl, hk, -⟩ := hs _ _ _ _ _ _ (.here _)
      rcases ofPrebuilt_cases (T := T) hp with rfl | ⟨q, -, ⟨-, rfl⟩ | ⟨-, rfl⟩⟩
      all_goals exact Level.isKnown_of_knows rfl hk

theorem isKnown_of_sound (hr : Pattern.read T P = .ok p) (hs : BuiltSoundly T P) :
    p.IsKnown T := by
  induction p using Pattern.induct generalizing P with
  | leaf l => exact .leaf (isKnown_level_of_sound hr hs)
  | elements l q ih =>
    obtain ⟨E, hE, hpart⟩ := isPart_of_read hr (.element 0)
    exact .elements (isKnown_level_of_sound hr hs) (ih hE (hs.part hpart))
  | contents l q ih =>
    obtain ⟨E, hE, hpart⟩ := isPart_of_read hr .contents
    exact .contents (isKnown_level_of_sound hr hs) (ih hE (hs.part hpart))
  | fields l fs ih =>
    refine .fields (isKnown_level_of_sound hr hs) fun f hf => ?_
    obtain ⟨F, hF, hpart⟩ := isPart_of_read hr (.field hf)
    exact ih f hf hF (hs.part hpart)

theorem type_of_built_contents {type o n within : Value} {s : String} {l : Level}
    (hp : Pattern.ofPrebuilt (.prebuilt type o n within s) = some (.contents l q))
    (hs : BuiltSoundly T (.prebuilt type o n within s)) : l.type = .string "observable" := by
  obtain ⟨name, rfl, -, hnest⟩ := hs _ _ _ _ _ _ (.here _)
  simp only [Pattern.ofPrebuilt, Option.some.injEq] at hp
  split at hp
  · cases hp
  rename_i q' hq'
  split at hp
  · cases hp
  rename_i harray
  have hname : name ∈ nestingTypes := hnest (by rw [hq']; rfl)
  cases hp
  simp only [Value.isString, beq_iff_eq] at harray
  simp only [nestingTypes, List.mem_cons, List.not_mem_nil, or_false] at hname
  exact congrArg Value.string (hname.resolve_left harray)

/-- Only patterns of observables ask something of the result of a call. -/
theorem type_of_contents {l : Level} (hr : Pattern.read T P = .ok (.contents l q))
    (hs : BuiltSoundly T P) : l.type = .string "observable" := by
  cases he : P.entries? with
  | some es =>
    cases Pattern.readsAs_of_read he hr with
    | observable => rfl
  | none =>
    rcases Pattern.read_of_no_entries he hr with ⟨s, sp, rfl, hsp, hp⟩ | ⟨type, o, n, w, s, rfl, hp⟩
    · -- what a text spells is read like the same built by hand
      have hsound := builtSoundly_toValue (StringPattern.grammatical_of_parse hsp)
      have hread := Pattern.ofPrebuilt_toValue sp
      rw [← hp] at hread
      cases sp <;> exact type_of_built_contents hread hsound
    · exact type_of_built_contents hp hs

end

/-! ## Calls -/

namespace Run

variable {r : Run} {next : Unit → Run} {e : Event}

theorem mem_events_andThen (h : e ∈ (r.andThen next).events) :
    e ∈ r.events ∨ (r.succeeds = true ∧ e ∈ (next ()).events) := by
  rcases r with ⟨events, f | ⟨⟨⟩⟩⟩
  · exact .inl h
  · rw [andThen, List.mem_append] at h
    exact h.imp_right fun h => ⟨rfl, h⟩

theorem mem_events_each {check : Value → Run} {vs : List Value} {i : Nat}
    (h : e ∈ (each check i vs).events) : ∃ v ∈ vs, e ∈ (check v).events := by
  induction vs generalizing i with
  | nil => cases h
  | cons v vs ih =>
    rcases mem_events_andThen h with h | ⟨-, h⟩
    · exact ⟨v, List.mem_cons_self, h⟩
    · obtain ⟨w, hw, he⟩ := ih h
      exact ⟨w, List.mem_cons_of_mem _ hw, he⟩

theorem events_require (b : Bool) (m : Mismatch) : (require b m).events = [] := by
  cases b <;> rfl

end Run

section

variable {T : TypeTable} {u v : Value}

/-- The test of a type calls nothing. -/
theorem TypeTable.not_called_check (type : Value) : Event.called u ∉ (T.check v type).events := by
  intro h
  unfold check at h
  split at h
  · rename_i c _
    cases c with
    | ofKind | callable => rw [Checker.run, Run.events_require] at h; cases h
    | observable library =>
      cases library with
      | none => cases h
      | some l =>
        unfold Checker.run at h
        simp only at h
        split at h <;> simp [Run.fail] at h
  · cases h

/-- What a level leads to calling, the parts of the value call, once its type is right. -/
theorem Level.opens_of_called {l : Level} {parts : Unit → Run}
    (h : Event.called u ∈ (l.check T v parts).events) :
    l.Opens T v ∧ Event.called u ∈ (parts ()).events := by
  by_cases hm : v = .missing
  · subst hm
    rw [check_missing, Run.events_require] at h
    cases h
  by_cases hn : v = .null
  · subst hn
    rw [check_null, Run.events_require] at h
    cases h
  cases ha : l.allowed with
  | some vs =>
    rw [check_choice hm hn ha, Run.events_require] at h
    cases h
  | none =>
    rw [check_type hm hn ha] at h
    rcases Run.mem_events_andThen h with h | ⟨htyped, h⟩
    · exact absurd h (TypeTable.not_called_check _)
    · exact ⟨⟨hm, hn, ha, htyped⟩, h⟩

theorem mem_events_checkFields {fs : List (String × Pattern)} {e : Event}
    (h : e ∈ (Pattern.checkFields T fs v).events) :
    ∃ f ∈ fs, ∃ w, e ∈ (f.2.check T w).events := by
  induction fs with
  | nil => cases h
  | cons f fs ih =>
    rcases Run.mem_events_andThen h with h | ⟨-, h⟩
    · unfold checkAt at h
      split at h
      · rename_i w _
        rw [Run.events_within] at h
        exact ⟨f, List.mem_cons_self, w, h⟩
      · cases h
    · obtain ⟨g, hg, w, he⟩ := ih h
      exact ⟨g, List.mem_cons_of_mem _ hg, w, he⟩

/-- **Whatever is called was accepted as an observable.** -/
theorem accepted_of_called {P : Value} {p : Pattern} (hr : Pattern.read T P = .ok p)
    (hs : BuiltSoundly T P) (h : Event.called u ∈ (p.check T v).events) :
    (T.check u (.string "observable")).succeeds = true := by
  induction p using Pattern.induct generalizing P v with
  | leaf l => cases (Level.opens_of_called h).2
  | elements l q ih =>
    obtain ⟨E, hE, hpart⟩ := isPart_of_read hr (.element 0)
    obtain ⟨-, h⟩ := Level.opens_of_called h
    unfold checkEach at h
    split at h
    · obtain ⟨w, -, h⟩ := Run.mem_events_each h
      exact ih hE (hs.part hpart) h
    · cases h
  | contents l q ih =>
    obtain ⟨E, hE, hpart⟩ := isPart_of_read hr .contents
    obtain ⟨hopens, h⟩ := Level.opens_of_called h
    rcases List.mem_cons.1 h with he | h
    · -- the value itself, whose type is that of observables
      cases he
      exact type_of_contents hr hs ▸ hopens.typed
    · split at h
      · exact ih hE (hs.part hpart) h
      · cases h
      · cases h
  | fields l fs ih =>
    obtain ⟨-, h⟩ := Level.opens_of_called h
    obtain ⟨f, hf, w, h⟩ := mem_events_checkFields h
    obtain ⟨F, hF, hpart⟩ := isPart_of_read hr (.field hf)
    exact ih f hf hF (hs.part hpart) h

end

/-! ## The separation of faults -/

/-- **String patterns built by hand are taken as they are.**  A verification ends alike whichever of
them stand in a pattern.  If those in force have known types, and contents only for arrays and
observables, then a check against the verified pattern blames the setup for a missing library only,
and calls nothing but what was accepted as an observable. -/
theorem sound_built_patterns_keep_faults_apart (T : TypeTable) (P : Value) (name : Option String) :
    (∀ Q, (Pattern.ofPrebuilt Q).isSome = true →
      (verification T (Value.replaceBuilt Q P)).outcome name = (verification T P).outcome name) ∧
    (BuiltSoundly T P → (verification T P).outcome name = .ok () → ∀ v,
      (∀ r, (check T v P).outcome name = .error (.reported r) → r.blame = .config → r.message =
        "Observable checking is not possible because no knockout instance is given!") ∧
      ∀ u, Event.called u ∈ (check T v P).events →
        (T.check u (.string "observable")).succeeds = true) := by
  refine ⟨fun Q hQ => verification_replaceBuilt T hQ P name, fun hs hok v => ?_⟩
  obtain ⟨p, hp⟩ := verification_eq_ok_iff.1 hok
  rw [check_of_verify hp]
  refine ⟨fun r hr hb => ?_, fun u hu => accepted_of_called hp hs hu⟩
  obtain ⟨f, hf, hproblem⟩ := Run.outcome_eq_error_iff.1 hr
  obtain ⟨d, hd, hmessage⟩ := Failure.defect?_of_problem hproblem hb
  obtain ⟨rfl, -⟩ := defect_of_fails (fails_of_check hf) (isKnown_of_sound hp hs) hd
  exact hmessage

/-- A sensor, in a pattern with a string pattern built by hand. -/
def sensorPattern : Value :=
  .mapping .editable 2
    [(.string "label", .string "optional string"),
      (.string "level", .prebuilt (.string "observable") (.boolean false) (.boolean false)
        (.prebuilt (.string "number") (.boolean false) (.boolean true) .null "nullable number")
        "observable nullable number")]

theorem builtSoundly_sensorPattern {T : TypeTable} (ho : T.knows "observable" = true)
    (hn : T.knows "number" = true) : BuiltSoundly T sensorPattern := by
  refine builtSoundly_of_entries rfl fun k E hE _ => ?_
  simp only [List.mem_cons, Prod.mk.injEq, List.not_mem_nil, or_false] at hE
  rcases hE with ⟨-, rfl⟩ | ⟨-, rfl⟩
  · exact builtSoundly_of_isWrittenOut _ rfl
  · have hlevel : StringPattern.Grammatical T
        (.nest ⟨"observable", false, false, "observable nullable number"⟩
          (.leaf ⟨"number", false, true, "nullable number"⟩)) :=
      .nest ho (by decide) (.leaf hn (by decide))
    exact builtSoundly_toValue hlevel

/-- The level of a sensor is asked, and its contents are not a number. -/
theorem level_is_called_of_sensorPattern :
    let T := TypeTable.standard.withLibrary (.ofKind 7 "ko")
    let level := Value.observable 1 (.string "low")
    let sensor := Value.mapping .editable 3 [(.string "level", level)]
    BuiltSoundly T sensorPattern ∧ (verification T sensorPattern).outcome none = .ok () ∧
      (check T sensor sensorPattern).outcome (some "sensor") = .error (.reported ⟨.pattern,
        "sensor.level() should have number type!", some "sensor.level()"⟩) ∧
      Event.called level ∈ (check T sensor sensorPattern).events ∧
      (T.check level (.string "observable")).succeeds = true ∧
      (Pattern.ofPrebuilt (.prebuilt (.string "nope") .null .null .null "")).isSome = true ∧
      (verification T (Value.replaceBuilt (.prebuilt (.string "nope") .null .null .null "")
        sensorPattern)).outcome none = .ok () := by
  intro T level sensor
  have hs : BuiltSoundly T sensorPattern := builtSoundly_sensorPattern rfl rfl
  have hok : (verification T sensorPattern).outcome none = .ok () := rfl
  have hcalled : Event.called level ∈ (check T sensor sensorPattern).events :=
    List.mem_cons_of_mem _ List.mem_cons_self
  obtain ⟨hreplaced, hkept⟩ := sound_built_patterns_keep_faults_apart T sensorPattern none
  exact ⟨hs, hok, rfl, hcalled, (hkept hs hok sensor).2 level hcalled, rfl,
    (hreplaced _ rfl).trans hok⟩

/-- A string pattern built by hand with an unknown type, and one that reads the contents of a
function, are verified, although the same patterns as texts are refused: the one blames the setup as
soon as there is a value to check, and the other calls what is not an observable. -/
theorem unsound_built_patterns_are_verified :
    let T := TypeTable.standard.withLibrary (.ofKind 7 "ko")
    let unknown := Value.prebuilt (.string "nope") (.boolean true) (.boolean false) .null "nope"
    let calling := Value.prebuilt (.string "function") (.boolean false) (.boolean false)
      (.prebuilt (.string "string") (.boolean false) (.boolean false) .null "string") ""
    let f := Value.function 1 (.string "x")
    let refused (message : String) : Except Problem Unit :=
      .error (.reported ⟨.config, message, none⟩)
    ((verification T unknown).outcome none = .ok () ∧
        (verification T (.string "optional nope")).outcome none = refused "Unknown type: nope" ∧
        (check T .missing unknown).outcome none = .ok () ∧
        (check T (.integer 1) unknown).outcome none = .error (.reported ⟨.config,
          "Unknown type: nope", some "configObject"⟩)) ∧
      (verification T calling).outcome none = .ok () ∧
      (verification T (.string "function string")).outcome none =
        refused "Invalid pattern: function string" ∧
      (check T f calling).outcome none = .ok () ∧
      Event.called f ∈ (check T f calling).events ∧
      (T.check f (.string "observable")).succeeds = false := by
  refine ⟨⟨rfl, ?_, rfl, ?_⟩, rfl, ?_, rfl, List.mem_cons_self, rfl⟩ <;> decide +kernel

end DataShape
