import DataShape.Check

/-!
# What patterns are read as

The reading of a mapping goes through a list of entries that are read already.  This file says
what comes out in terms of the mapping itself.

* `Value.inductOnEntries` — induction on patterns given as values.
* `givenType`, `givenChoice`, `givenLevel` — what a mapping says about a value itself.
* `ReadsAs`, `readsAs_of_read` — the pattern that a mapping stands for, one case for each form.
* `ofEntries_eq_ok_iff` — what entries stand for, put together from their parts.
* `fieldsOf_spec` — the fields of a pattern are the entries under keys that are not reserved.
* `Value.isWrittenOut` — patterns made of texts and mappings: wherever a verification looks, it
  finds no string pattern that was built by hand.
* `StringPattern.Grammatical`, `grammatical_of_parse` — parsed levels have known types, and only
  arrays and observables have contents.
-/

namespace DataShape

/-! ## Sequences of readings -/

theorem bind_eq_ok_iff {ε α β : Type} {x : Except ε α} {f : α → Except ε β} {b : β} :
    (x >>= f) = .ok b ↔ ∃ a, x = .ok a ∧ f a = .ok b := by
  cases x <;> simp [bind, Except.bind]

theorem map_eq_ok_iff {ε α β : Type} {x : Except ε α} {f : α → β} {b : β} :
    x.map f = .ok b ↔ ∃ a, x = .ok a ∧ f a = b := by
  cases x <;> simp [Except.map]

theorem map_eq_error_iff {ε α β : Type} {x : Except ε α} {f : α → β} {e : ε} :
    x.map f = .error e ↔ x = .error e := by
  cases x <;> simp [Except.map]

theorem mapError_eq_ok_iff {ε δ α : Type} {x : Except ε α} {f : ε → δ} {a : α} :
    x.mapError f = .ok a ↔ x = .ok a := by
  cases x <;> simp

theorem mapError_eq_error_iff {ε δ α : Type} {x : Except ε α} {f : ε → δ} {d : δ} :
    x.mapError f = .error d ↔ ∃ e, x = .error e ∧ d = f e := by
  cases x <;> simp [eq_comm]

namespace Value

mutual

/-- Induction on values as patterns: a property of all values of a mapping carries over to the
mapping. -/
@[elab_as_elim]
theorem inductOnEntries {motive : Value → Prop}
    (entries : ∀ P es, P.entries? = some es → (∀ e ∈ es, motive e.2) → motive P)
    (other : ∀ P, P.entries? = none → motive P) : ∀ P, motive P
  | .mapping form id es => entries (.mapping form id es) es rfl (inductOnList entries other es)
  | .callableMapping id es r =>
    entries (.callableMapping id es r) es rfl (inductOnList entries other es)
  | .missing | .null | .boolean _ | .integer _ | .float _ _ | .string _ | .sequence _ _ _
  | .date _ | .dateTime _ | .time _ | .bytes _ | .set _ | .plain _ _ | .function _ _
  | .observable _ _ | .faulty _ _ | .factory _ _ | .callableSequence _ _ _ | .library _ _
  | .prebuilt _ _ _ _ _ => other _ rfl

theorem inductOnList {motive : Value → Prop}
    (entries : ∀ P es, P.entries? = some es → (∀ e ∈ es, motive e.2) → motive P)
    (other : ∀ P, P.entries? = none → motive P) :
    ∀ es : List (Value × Value), ∀ e ∈ es, motive e.2
  | [], _, h => absurd h List.not_mem_nil
  | (_, P) :: es, e, h => by
    rcases List.mem_cons.1 h with rfl | h
    · exact inductOnEntries entries other P
    · exact inductOnList entries other es e h

end

theorem lookup_eq_none_iff {key : String} {es : List (Value × Value)} :
    lookup key es = none ↔ .string key ∉ es.map Prod.fst := by
  induction es with
  | nil => simp [lookup]
  | cons e es ih =>
    obtain ⟨k, v⟩ := e
    rw [lookup, List.map_cons, List.mem_cons, not_or, ← ih]
    by_cases hk : k.isString key = true
    · rw [if_pos hk, isString_iff.1 hk]
      simp
    · rw [if_neg hk]
      exact (and_iff_right fun h => hk (isString_iff.2 h.symm)).symm

theorem lookup_append {key : String} {es fs : List (Value × Value)} :
    lookup key (es ++ fs) = (lookup key es).or (lookup key fs) := by
  induction es with
  | nil => rfl
  | cons e es ih =>
    obtain ⟨k, v⟩ := e
    rw [List.cons_append, lookup, lookup]
    split
    · rfl
    · exact ih

end Value

/-! ## What a mapping says about a value itself -/

/-- The type that a mapping gives; one that counts as false is as good as none. -/
def givenType (es : List (Value × Value)) : Value :=
  match Value.lookup Keyword.type es with
  | some t => if t.truthy then t else .string defaultType
  | none => .string defaultType

/-- The values that a mapping allows, if it gives a choice. -/
def givenChoice (es : List (Value × Value)) : Option (List Value) :=
  (Value.lookup Keyword.allowedValues es).bind Value.members?

/-- The level that a mapping stands for. -/
def givenLevel (es : List (Value × Value)) (type : String) : Level where
  type := .string type
  isOptional := (Value.lookup Keyword.required es).any Pattern.isFalse
  isNullable := (Value.lookup Keyword.nullable es).any Pattern.isTrue
  allowed := givenChoice es

/-- Whether a key names a field. -/
def IsField (key : String) : Prop := key ∉ Keyword.all

theorem not_reserves_iff {key : String} :
    ¬ Keyword.reserves (.string key) = true ↔ IsField key := by
  simp [Keyword.reserves, IsField]

namespace Pattern

variable {T : TypeTable} {es : List (Value × Value)}

theorem any_isFalse_iff {o : Option Value} :
    o.any isFalse = true ↔ o = some (.boolean false) := by
  cases o with
  | none => simp
  | some v => cases v <;> simp [isFalse]

theorem any_isTrue_iff {o : Option Value} : o.any isTrue = true ↔ o = some (.boolean true) := by
  cases o with
  | none => simp
  | some v => cases v <;> simp [isTrue]

/-! ## Entries that are read -/

theorem typeOf_readEntries : typeOf (readEntries T es) = givenType es := by
  unfold typeOf givenType
  rw [entryAt_readEntries]
  cases Value.lookup Keyword.type es <;> rfl

theorem holds_readEntries (key : String) (test : Value → Bool) :
    holds key test (readEntries T es) = (Value.lookup key es).any test := by
  unfold holds
  rw [entryAt_readEntries]
  cases Value.lookup key es <;> rfl

/-- Allowed values that are accepted are the members of an array, or there is no choice. -/
theorem givenChoice_of_allowedOf {allowed : Option (List Value)}
    (h : allowedOf (readEntries T es) = .ok allowed) : allowed = givenChoice es := by
  unfold allowedOf at h
  unfold givenChoice
  rw [entryAt_readEntries] at h
  cases hl : Value.lookup Keyword.allowedValues es with
  | none => rw [hl] at h; cases h; rfl
  | some v =>
    rw [hl] at h
    simp only [Option.map_some] at h
    split at h
    · cases h; rfl
    · rename_i hv
      cases h
      exact hv.symm
    · cases h

theorem elementsOf_ok {each : Option Pattern} (h : elementsOf (readEntries T es) = .ok each) :
    (Value.lookup Keyword.elements es = none ∧ each = none) ∨
      ∃ E q, Value.lookup Keyword.elements es = some E ∧ read T E = .ok q ∧ each = some q := by
  unfold elementsOf at h
  rw [entryAt_readEntries] at h
  cases hl : Value.lookup Keyword.elements es with
  | none => rw [hl] at h; cases h; exact .inl ⟨rfl, rfl⟩
  | some E =>
    rw [hl] at h
    obtain ⟨q, hr, rfl⟩ := map_eq_ok_iff.1 h
    exact .inr ⟨E, q, rfl, mapError_eq_ok_iff.1 hr, rfl⟩

theorem contentsOf_ok {inner : Option Pattern} (h : contentsOf (readEntries T es) = .ok inner) :
    ((∀ E, Value.lookup Keyword.contents es = some E → E = .null) ∧ inner = none) ∨
      ∃ E q, Value.lookup Keyword.contents es = some E ∧ E ≠ .null ∧ read T E = .ok q ∧
        inner = some q := by
  unfold contentsOf at h
  rw [entryAt_readEntries] at h
  cases hl : Value.lookup Keyword.contents es with
  | none => rw [hl] at h; cases h; exact .inl ⟨by simp, rfl⟩
  | some E =>
    rw [hl] at h
    simp only [Option.map_some] at h
    split at h
    · cases h
      exact .inl ⟨by simp, rfl⟩
    · rename_i hE
      obtain ⟨q, hr, rfl⟩ := map_eq_ok_iff.1 h
      exact .inr ⟨E, q, rfl, hE, mapError_eq_ok_iff.1 hr, rfl⟩

/-- A reserved key adds no field, and any other one has to be a string with a pattern. -/
theorem fieldsOf_cons_iff {key F : Value} {fs : List (String × Pattern)} :
    fieldsOf (readEntries T ((key, F) :: es)) = .ok fs ↔
      (Keyword.reserves key = true ∧ fieldsOf (readEntries T es) = .ok fs) ∨
      ∃ k q gs, key = .string k ∧ IsField k ∧ read T F = .ok q ∧
        fieldsOf (readEntries T es) = .ok gs ∧ fs = (k, q) :: gs := by
  rw [readEntries, fieldsOf]
  by_cases hres : Keyword.reserves key = true
  · rw [if_pos hres]
    refine ⟨fun h => .inl ⟨hres, h⟩, ?_⟩
    rintro (⟨-, h⟩ | ⟨k, q, gs, rfl, hk, -⟩)
    · exact h
    · exact absurd hres (not_reserves_iff.2 hk)
  · rw [if_neg hres]
    constructor
    · intro h
      split at h
      · rename_i k hkey
        simp only at hkey
        subst hkey
        obtain ⟨q, hq, h⟩ := bind_eq_ok_iff.1 h
        obtain ⟨gs, hgs, h⟩ := bind_eq_ok_iff.1 h
        cases h
        exact .inr ⟨k, q, gs, rfl, not_reserves_iff.1 hres, mapError_eq_ok_iff.1 hq, hgs, rfl⟩
      · cases h
    · rintro (⟨h, -⟩ | ⟨k, q, gs, rfl, -, hq, hgs, rfl⟩)
      · exact absurd h hres
      · simp [hq, hgs, bind, Except.bind, pure, Except.pure]

/-- **The fields of a pattern** are the entries under keys that are not reserved: each is read, and
nothing else becomes a field. -/
theorem fieldsOf_spec {fs : List (String × Pattern)} (h : fieldsOf (readEntries T es) = .ok fs) :
    (∀ k F, (.string k, F) ∈ es → IsField k → ∃ q, (k, q) ∈ fs ∧ read T F = .ok q) ∧
      ∀ k q, (k, q) ∈ fs → ∃ F, (.string k, F) ∈ es ∧ IsField k ∧ read T F = .ok q := by
  induction es generalizing fs with
  | nil => cases h; simp
  | cons e es ih =>
    obtain ⟨key, P⟩ := e
    rcases fieldsOf_cons_iff.1 h with ⟨hres, hes⟩ | ⟨k, q, gs, rfl, hfield, hr, hgs, rfl⟩
    · obtain ⟨h₁, h₂⟩ := ih hes
      refine ⟨fun k F hm hk => ?_, fun k q hm => ?_⟩
      · rcases List.mem_cons.1 hm with he | hm
        · cases he
          exact absurd hres (not_reserves_iff.2 hk)
        · exact h₁ k F hm hk
      · obtain ⟨F, hF, hk, hr⟩ := h₂ k q hm
        exact ⟨F, List.mem_cons_of_mem _ hF, hk, hr⟩
    · obtain ⟨h₁, h₂⟩ := ih hgs
      refine ⟨fun k' F hm hk => ?_, fun k' q' hm => ?_⟩
      · rcases List.mem_cons.1 hm with he | hm
        · cases he
          exact ⟨q, List.mem_cons_self, hr⟩
        · obtain ⟨q', hq', hr'⟩ := h₁ k' F hm hk
          exact ⟨q', List.mem_cons_of_mem _ hq', hr'⟩
      · rcases List.mem_cons.1 hm with he | hm
        · cases he
          exact ⟨P, List.mem_cons_self, hfield, hr⟩
        · obtain ⟨F, hF, hk, hr'⟩ := h₂ k' q' hm
          exact ⟨F, List.mem_cons_of_mem _ hF, hk, hr'⟩

end Pattern

/-! ## Mappings -/

/-- The pattern that the entries of a mapping stand for: one case for each form of patterns. -/
inductive ReadsAs (T : TypeTable) (es : List (Value × Value)) : Pattern → Prop
  | object {fs} : givenType es = .string "object" → T.knows "object" = true →
      Pattern.fieldsOf (Pattern.readEntries T es) = .ok fs →
      ReadsAs T es (.fields (givenLevel es "object") fs)
  | array {E q} : givenType es = .string "array" → T.knows "array" = true →
      Value.lookup Keyword.elements es = some E → Pattern.read T E = .ok q →
      ReadsAs T es (.elements (givenLevel es "array") q)
  | observable {E q} : givenType es = .string "observable" → T.knows "observable" = true →
      Value.lookup Keyword.contents es = some E → E ≠ .null → Pattern.read T E = .ok q →
      ReadsAs T es (.contents (givenLevel es "observable") q)
  /-- Nothing is asked of the parts of the value. -/
  | leaf {type} : givenType es = .string type → T.knows type = true → type ≠ "object" →
      (type = "array" → Value.lookup Keyword.elements es = none) →
      (type = "observable" → ∀ E, Value.lookup Keyword.contents es = some E → E = .null) →
      ReadsAs T es (.leaf (givenLevel es type))

namespace TypeTable

theorem require_ok {T : TypeTable} {type : Value} {name : String}
    (h : T.require type = .ok name) : type = .string name ∧ T.knows name = true := by
  unfold require at h
  split at h
  · split at h
    · rename_i hk
      cases h
      exact ⟨rfl, hk⟩
    · cases h
  · cases h

end TypeTable

namespace Pattern

variable {T : TypeTable} {es : List (Value × Value)} {P : Value} {p : Pattern}

/-- The pattern of a type, put together from a level and what is known of the parts. -/
def assemble (l : Level) (type : String) (each inner : Option Pattern)
    (fs : List (String × Pattern)) : Pattern :=
  if type = "object" then fields l fs
  else if type = "array" then (each.map (elements l)).getD (leaf l)
  else if type = "observable" then (inner.map (contents l)).getD (leaf l)
  else leaf l

/-- **What the entries of a mapping stand for**, put together from what they say of the value itself
and of its parts.  Fields are only read for objects. -/
theorem ofEntries_eq_ok_iff :
    ofEntries T (readEntries T es) = .ok p ↔
      ∃ type each inner fs, givenType es = .string type ∧ T.knows type = true ∧
        allowedOf (readEntries T es) = .ok (givenChoice es) ∧
        elementsOf (readEntries T es) = .ok each ∧ contentsOf (readEntries T es) = .ok inner ∧
        (type = "object" → fieldsOf (readEntries T es) = .ok fs) ∧
        p = assemble (givenLevel es type) type each inner fs := by
  unfold ofEntries
  rw [typeOf_readEntries, holds_readEntries, holds_readEntries]
  constructor
  · intro h
    obtain ⟨type, ht, h⟩ := bind_eq_ok_iff.1 h
    obtain ⟨allowed, ha, h⟩ := bind_eq_ok_iff.1 h
    obtain ⟨each, he, h⟩ := bind_eq_ok_iff.1 h
    obtain ⟨inner, hi, h⟩ := bind_eq_ok_iff.1 h
    obtain ⟨hty, hk⟩ := TypeTable.require_ok (mapError_eq_ok_iff.1 ht)
    cases givenChoice_of_allowedOf ha
    simp only at h
    split at h
    · rename_i hobj
      obtain ⟨fs, hf, h⟩ := bind_eq_ok_iff.1 h
      cases h
      refine ⟨type, each, inner, fs, hty, hk, ha, he, hi, fun _ => hf, ?_⟩
      rw [assemble, if_pos hobj]
      rfl
    · rename_i hobj
      refine ⟨type, each, inner, [], hty, hk, ha, he, hi, fun h => absurd h hobj, ?_⟩
      rw [assemble, if_neg hobj]
      split at h
      · rename_i harr
        cases h
        rw [if_pos harr]
        rfl
      rename_i harr
      rw [if_neg harr]
      split at h
      · rename_i hobs
        cases h
        rw [if_pos hobs]
        rfl
      rename_i hobs
      cases h
      rw [if_neg hobs]
      rfl
  · rintro ⟨type, each, inner, fs, hty, hk, ha, he, hi, hf, rfl⟩
    have ht : T.require (givenType es) = .ok type := by
      rw [hty, TypeTable.require, if_pos hk]
    rw [ht, ha, he, hi]
    simp only [mapError_ok, bind, Except.bind, pure, Except.pure]
    unfold assemble
    split
    · rename_i hobj
      rw [hf hobj]
      rfl
    split
    · rfl
    split <;> rfl

theorem readsAs_of_ofEntries (h : ofEntries T (readEntries T es) = .ok p) : ReadsAs T es p := by
  obtain ⟨type, each, inner, fs, hty, hk, -, he, hc, hf, rfl⟩ := ofEntries_eq_ok_iff.1 h
  unfold assemble
  split
  · rename_i hobj
    subst hobj
    exact .object hty hk (hf rfl)
  rename_i hobj
  split
  · rename_i harr
    subst harr
    rcases elementsOf_ok he with ⟨hl, rfl⟩ | ⟨E, q, hl, hr, rfl⟩
    · exact .leaf hty hk hobj (fun _ => hl) (by simp)
    · exact .array hty hk hl hr
  rename_i harr
  split
  · rename_i hobs
    subst hobs
    rcases contentsOf_ok hc with ⟨hl, rfl⟩ | ⟨E, q, hl, hn, hr, rfl⟩
    · exact .leaf hty hk hobj (by simp) fun _ => hl
    · exact .observable hty hk hl hn hr
  rename_i hobs
  exact .leaf hty hk hobj (fun h => absurd h harr) fun h => absurd h hobs

/-- A mapping stands for a pattern as soon as each of its parts does. -/
theorem ofEntries_eq_assemble {type : String} {allowed : Option (List Value)}
    {each inner : Option Pattern} {fs : List (String × Pattern)}
    (hty : givenType es = .string type) (hk : T.knows type = true)
    (ha : allowedOf (readEntries T es) = .ok allowed)
    (he : elementsOf (readEntries T es) = .ok each)
    (hi : contentsOf (readEntries T es) = .ok inner)
    (hf : fieldsOf (readEntries T es) = .ok fs) :
    ofEntries T (readEntries T es) = .ok (assemble (givenLevel es type) type each inner fs) := by
  cases givenChoice_of_allowedOf ha
  exact ofEntries_eq_ok_iff.2 ⟨type, each, inner, fs, hty, hk, ha, he, hi, fun _ => hf, rfl⟩

/-- Where all keys are reserved there are no fields. -/
theorem fieldsOf_of_reserved (h : ∀ e ∈ es, Keyword.reserves e.1 = true) :
    fieldsOf (readEntries T es) = .ok [] := by
  induction es with
  | nil => rfl
  | cons e es ih =>
    rw [readEntries, fieldsOf, if_pos (h e List.mem_cons_self)]
    exact ih fun e' he' => h e' (List.mem_cons_of_mem _ he')

theorem read_of_entries (he : P.entries? = some es) :
    read T P = ofEntries T (readEntries T es) := by
  cases P <;> cases he <;> rfl

/-- **What a mapping is read as.** -/
theorem readsAs_of_read (he : P.entries? = some es) (h : read T P = .ok p) : ReadsAs T es p :=
  readsAs_of_ofEntries (read_of_entries he ▸ h)

/-- A string pattern built by hand is read as what it says. -/
theorem read_of_ofPrebuilt (h : ofPrebuilt P = some p) : read T P = .ok p := by
  cases P with
  | prebuilt => simp only [read, h]
  | _ => cases h

theorem read_toValue (T : TypeTable) (p : StringPattern) : read T p.toValue = .ok (ofString p) :=
  read_of_ofPrebuilt (ofPrebuilt_toValue p)

/-- A pattern that is not a mapping is a text or a string pattern built by hand. -/
theorem read_of_no_entries (he : P.entries? = none) (h : read T P = .ok p) :
    (∃ s sp, P = .string s ∧ StringPattern.parse T s = .ok sp ∧ p = ofString sp) ∨
      ∃ type o n c s, P = .prebuilt type o n c s ∧ ofPrebuilt P = some p := by
  cases P with
  | string s =>
    obtain ⟨sp, hs, rfl⟩ := map_eq_ok_iff.1 h
    exact .inl ⟨s, sp, rfl, mapError_eq_ok_iff.1 hs, rfl⟩
  | mapping => cases he
  | callableMapping => cases he
  | prebuilt type o n c s =>
    cases h
    exact .inr ⟨type, o, n, c, s, rfl, rfl⟩
  | _ => cases h

end Pattern

/-! ## Patterns made of texts and mappings -/

/-- Whether the value under a key of a mapping can be a pattern. -/
def Keyword.isPlace : Value → Bool
  | .string s => !([type, required, nullable, allowedValues].contains s)
  | _ => true

mutual

/-- Whether no string pattern built by hand stands where a verification looks. -/
def Value.isWrittenOut : Value → Bool
  | .prebuilt _ _ _ _ _ => false
  | .mapping _ _ es | .callableMapping _ es _ => areWrittenOut es
  | _ => true

/-- Whether no value of a mapping that can be a pattern has such a place. -/
def Value.areWrittenOut : List (Value × Value) → Bool
  | [] => true
  | (k, P) :: rest => (!Keyword.isPlace k || P.isWrittenOut) && areWrittenOut rest

end

theorem Value.isWrittenOut_of_mem {P k E : Value} {es : List (Value × Value)}
    (he : P.entries? = some es) (hP : P.isWrittenOut = true) (h : (k, E) ∈ es)
    (hk : Keyword.isPlace k = true) : E.isWrittenOut = true := by
  have hes : areWrittenOut es = true := by
    cases P <;> cases he <;> exact hP
  clear he hP
  induction es with
  | nil => cases h
  | cons e es ih =>
    obtain ⟨k', E'⟩ := e
    simp only [areWrittenOut, Bool.and_eq_true, Bool.or_eq_true, Bool.not_eq_true'] at hes
    rcases List.mem_cons.1 h with he | h
    · cases he
      exact hes.1.resolve_left (by simp [hk])
    · exact ih h hes.2

theorem isPlace_of_isField {key : String} (h : IsField key) :
    Keyword.isPlace (.string key) = true := by
  simp only [IsField, Keyword.all, List.mem_cons, List.not_mem_nil, or_false, not_or] at h
  simp [Keyword.isPlace, h]

/-! ## String patterns -/

theorem ne_empty_of_mem_words {s w : String} (h : w ∈ words s) : w ≠ "" := by
  rintro rfl
  exact (isWord_of_mem_words h).1 rfl

namespace StringPattern

/-- What parsing guarantees at each level: the type is known, and only arrays and observables have
contents. -/
inductive Grammatical (T : TypeTable) : StringPattern → Prop
  | leaf {h : PatternHead} : T.knows h.type = true → h.type ≠ "" → Grammatical T (.leaf h)
  | nest {h : PatternHead} {p} : T.knows h.type = true → h.type ∈ nestingTypes →
      Grammatical T p → Grammatical T (.nest h p)

theorem grammatical_of_parseWords {T : TypeTable} {ws : List String} (hws : ∀ w ∈ ws, w ≠ "")
    {source : String} {o n : Bool} {p : StringPattern}
    (h : parseWords T source o n ws = .ok p) : p.Grammatical T := by
  induction ws generalizing source o n p with
  | nil => cases h
  | cons w rest ih =>
    have hrest : ∀ w ∈ rest, w ≠ "" := fun x hx => hws x (List.mem_cons_of_mem _ hx)
    rw [parseWords] at h
    split at h
    · exact ih hrest h
    split at h
    · exact ih hrest h
    split at h
    · cases h
    rename_i hk
    have hk : T.knows w = true := by simpa using hk
    simp only at h
    split at h
    · cases h
      exact .leaf hk (hws w List.mem_cons_self)
    split at h
    · cases h
    rename_i hw
    cases hp : parseWords T (unwords rest) false false rest with
    | error d => rw [hp] at h; cases h
    | ok q =>
      rw [hp] at h
      cases h
      exact .nest hk (by simpa using hw) (ih hrest hp)

theorem grammatical_of_parse {T : TypeTable} {s : String} {p : StringPattern}
    (h : parse T s = .ok p) : p.Grammatical T :=
  grammatical_of_parseWords (fun _ hw => ne_empty_of_mem_words hw) h

end StringPattern

end DataShape
