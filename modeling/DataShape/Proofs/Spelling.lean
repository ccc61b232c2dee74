import Mathlib.Data.List.Forall2
import DataShape.Proofs.Checks
import DataShape.Proofs.Engines

/-!
# Spellings of a pattern

A text, the string pattern that it spells, and a mapping that says the same are one pattern: the
string engine and the object engine agree.

* `StringPattern.toMapping` — a string pattern as a mapping, level by level.
* `Respelled` — two patterns that differ in the spelling of their string patterns, at any places
  where a verification looks.
* `Pattern.Alike` — patterns under which every value has the same run; all ways of building
  patterns respect it.
* `ReadsAlike` — values that stand for such patterns; mappings do if their entries do.
* `check_eq_of_respelled` — **the spelling does not matter**: whichever engine it leads to, a value
  is checked in the same way.
-/

namespace DataShape

/-! ## Spellings -/

namespace StringPattern

/-- What a mapping says of a level. -/
def headEntries (h : PatternHead) : List (Value × Value) :=
  [(.string Keyword.type, .string h.type), (.string Keyword.required, .boolean !h.isOptional),
    (.string Keyword.nullable, .boolean h.isNullable)]

/-- A string pattern as a mapping: contents stand under `__elements` for an array and under
`__value` for an observable. -/
def toMapping (form : MappingForm) (id : Nat) : StringPattern → Value
  | .leaf h => .mapping form id (headEntries h)
  | .nest h p =>
    .mapping form id (headEntries h ++
      [(.string (if h.type = "array" then Keyword.elements else Keyword.contents),
        p.toMapping form id)])

end StringPattern

mutual

/-- Two patterns that are the same but for the spelling of string patterns. -/
inductive Respelled (T : TypeTable) : Value → Value → Prop
  | same (P) : Respelled T P P
  /-- The string pattern that a text spells. -/
  | built {s p} : StringPattern.parse T s = .ok p → Respelled T (.string s) p.toValue
  /-- A mapping that says the same as a text. -/
  | mapped {s p} (form id) : StringPattern.parse T s = .ok p →
      Respelled T (.string s) (p.toMapping form id)
  | entries {P Q es es'} : P.entries? = some es → Q.entries? = some es' →
      RespelledEntries T es es' → Respelled T P Q

/-- Entries of which some are respelled, all under keys whose values can be patterns. -/
inductive RespelledEntries (T : TypeTable) : List (Value × Value) → List (Value × Value) → Prop
  | nil : RespelledEntries T [] []
  | keep (e) {es es'} : RespelledEntries T es es' → RespelledEntries T (e :: es) (e :: es')
  | place {k P Q es es'} : Keyword.isPlace k = true → Respelled T P Q →
      RespelledEntries T es es' → RespelledEntries T ((k, P) :: es) ((k, Q) :: es')

end

/-! ## Patterns that make the same runs -/

namespace Pattern

variable {T : TypeTable} {l : Level} {p q : Pattern}

/-- Every value has the same run under both patterns. -/
def Alike (T : TypeTable) (p q : Pattern) : Prop := ∀ v, p.check T v = q.check T v

theorem Alike.refl (T : TypeTable) (p : Pattern) : p.Alike T p := fun _ => rfl

theorem Alike.elements (h : p.Alike T q) : (elements l p).Alike T (elements l q) := by
  intro v
  have : (fun u => check T p u) = fun u => check T q u := funext h
  rw [check, check, this]

theorem Alike.contents (h : p.Alike T q) : (contents l p).Alike T (contents l q) := by
  intro v
  have : (fun u => check T p u) = fun u => check T q u := funext h
  rw [check, check, this]

theorem checkFields_congr {fs gs : List (String × Pattern)}
    (h : List.Forall₂ (fun f g => f.1 = g.1 ∧ f.2.Alike T g.2) fs gs) (v : Value) :
    checkFields T fs v = checkFields T gs v := by
  induction h with
  | nil => rfl
  | @cons f g fs gs hfg _ ih =>
    obtain ⟨key, p⟩ := f
    obtain ⟨key', q⟩ := g
    obtain ⟨rfl, hpq⟩ := hfg
    have : (fun u => check T p u) = fun u => check T q u := funext hpq
    rw [checkFields, checkFields, this, ih]

theorem Alike.fields {fs gs : List (String × Pattern)}
    (h : List.Forall₂ (fun f g => f.1 = g.1 ∧ f.2.Alike T g.2) fs gs) :
    (fields l fs).Alike T (fields l gs) := by
  intro v
  rw [check, check, checkFields_congr h]

/-- An object without fields asks nothing of its parts. -/
theorem alike_fields_nil : (leaf l).Alike T (fields l []) := fun _ => rfl

/-! ## Entries -/

/-- Entries with the same key, which are read alike where they can be patterns and are the same
where they cannot. -/
structure EntryAlike (T : TypeTable) (e e' : Entry) : Prop where
  key : e.key = e'.key
  setting : Keyword.isPlace e.key = false → e.value = e'.value
  null : e.value = .null ↔ e'.value = .null
  pattern : Keyword.isPlace e.key = true → ∀ p, e.pattern = .ok p →
    ∃ q, e'.pattern = .ok q ∧ p.Alike T q

section

variable {es es' : List Entry} (h : List.Forall₂ (EntryAlike T) es es')

include h

theorem entryAt_alike (key : String) :
    (entryAt key es = none ∧ entryAt key es' = none) ∨
      ∃ e e', entryAt key es = some e ∧ entryAt key es' = some e' ∧ e.key = .string key ∧
        EntryAlike T e e' := by
  induction h with
  | nil => exact .inl ⟨rfl, rfl⟩
  | @cons e e' es es' he _ ih =>
    rw [entryAt, entryAt, ← he.key]
    split
    · rename_i hk
      exact .inr ⟨e, e', rfl, rfl, Value.isString_iff.1 hk, he⟩
    · exact ih

/-- Under a key whose value cannot be a pattern both lists hold the same. -/
theorem entryAt_value {key : String} (hk : Keyword.isPlace (.string key) = false) :
    (entryAt key es).map Entry.value = (entryAt key es').map Entry.value := by
  rcases entryAt_alike h key with ⟨h₁, h₂⟩ | ⟨e, e', h₁, h₂, hkey, he⟩
  · rw [h₁, h₂]
  · rw [h₁, h₂, Option.map_some, Option.map_some, he.setting (hkey ▸ hk)]

theorem typeOf_alike : typeOf es = typeOf es' := by
  have : (entryAt Keyword.type es).map Entry.value = (entryAt Keyword.type es').map Entry.value :=
    entryAt_value h rfl
  unfold typeOf
  cases h₁ : entryAt Keyword.type es <;> cases h₂ : entryAt Keyword.type es' <;> simp_all

theorem allowedOf_alike : allowedOf es = allowedOf es' := by
  have : (entryAt Keyword.allowedValues es).map Entry.value =
      (entryAt Keyword.allowedValues es').map Entry.value := entryAt_value h rfl
  unfold allowedOf
  cases h₁ : entryAt Keyword.allowedValues es <;>
    cases h₂ : entryAt Keyword.allowedValues es' <;> simp_all

theorem holds_alike (key : String) (hk : Keyword.isPlace (.string key) = false)
    (test : Value → Bool) : holds key test es = holds key test es' := by
  have := entryAt_value h hk
  unfold holds
  cases h₁ : entryAt key es <;> cases h₂ : entryAt key es' <;> simp_all

theorem elementsOf_alike {each : Option Pattern} (he : elementsOf es = .ok each) :
    ∃ each', elementsOf es' = .ok each' ∧ Option.Rel (Alike T) each each' := by
  unfold elementsOf at he ⊢
  rcases entryAt_alike h Keyword.elements with ⟨h₁, h₂⟩ | ⟨e, e', h₁, h₂, hkey, hee⟩
  · rw [h₁] at he
    cases he
    exact ⟨none, by rw [h₂], .none⟩
  · rw [h₁] at he
    obtain ⟨p, hp, rfl⟩ := map_eq_ok_iff.1 he
    obtain ⟨q, hq, hpq⟩ := hee.pattern (hkey ▸ rfl) p (mapError_eq_ok_iff.1 hp)
    exact ⟨some q, by rw [h₂]; simp [hq, Except.map], .some hpq⟩

theorem contentsOf_alike {inner : Option Pattern} (hi : contentsOf es = .ok inner) :
    ∃ inner', contentsOf es' = .ok inner' ∧ Option.Rel (Alike T) inner inner' := by
  unfold contentsOf at hi ⊢
  rcases entryAt_alike h Keyword.contents with ⟨h₁, h₂⟩ | ⟨e, e', h₁, h₂, hkey, hee⟩
  · rw [h₁] at hi
    cases hi
    exact ⟨none, by rw [h₂], .none⟩
  · rw [h₁] at hi
    rw [h₂]
    simp only at hi ⊢
    split at hi
    · rename_i hn
      cases hi
      rw [hee.null.1 hn]
      exact ⟨none, rfl, .none⟩
    · rename_i hn
      obtain ⟨p, hp, rfl⟩ := map_eq_ok_iff.1 hi
      obtain ⟨q, hq, hpq⟩ := hee.pattern (hkey ▸ rfl) p (mapError_eq_ok_iff.1 hp)
      refine ⟨some q, ?_, .some hpq⟩
      split
      · rename_i hn'
        exact absurd (hee.null.2 hn') hn
      · simp [hq, Except.map]

theorem fieldsOf_alike {fs : List (String × Pattern)} (hf : fieldsOf es = .ok fs) :
    ∃ gs, fieldsOf es' = .ok gs ∧
      List.Forall₂ (fun f g => f.1 = g.1 ∧ f.2.Alike T g.2) fs gs := by
  induction h generalizing fs with
  | nil =>
    cases hf
    exact ⟨[], rfl, .nil⟩
  | @cons e e' es es' he _ ih =>
    rw [fieldsOf] at hf ⊢
    rw [← he.key]
    split at hf
    · rename_i hres
      rw [if_pos hres]
      exact ih hf
    · rename_i hres
      rw [if_neg hres]
      split at hf
      · rename_i k hkey
        obtain ⟨p, hp, hf⟩ := bind_eq_ok_iff.1 hf
        obtain ⟨ps, hps, hf⟩ := bind_eq_ok_iff.1 hf
        cases hf
        rw [hkey] at hres
        have hplace : Keyword.isPlace e.key = true :=
          hkey ▸ isPlace_of_isField (not_reserves_iff.1 hres)
        obtain ⟨q, hq, hpq⟩ := he.pattern hplace p (mapError_eq_ok_iff.1 hp)
        obtain ⟨gs, hgs, hfg⟩ := ih hps
        refine ⟨(k, q) :: gs, ?_, .cons ⟨rfl, hpq⟩ hfg⟩
        simp [hq, hgs, bind, Except.bind, pure, Except.pure]
      · cases hf

/-- Alike entries stand for alike patterns. -/
theorem ofEntries_alike {p : Pattern} (hp : ofEntries T es = .ok p) :
    ∃ q, ofEntries T es' = .ok q ∧ p.Alike T q := by
  unfold ofEntries at hp ⊢
  rw [← typeOf_alike h, ← allowedOf_alike h, ← holds_alike h Keyword.required rfl,
    ← holds_alike h Keyword.nullable rfl]
  obtain ⟨type, ht, hp⟩ := bind_eq_ok_iff.1 hp
  obtain ⟨allowed, ha, hp⟩ := bind_eq_ok_iff.1 hp
  obtain ⟨each, he, hp⟩ := bind_eq_ok_iff.1 hp
  obtain ⟨inner, hi, hp⟩ := bind_eq_ok_iff.1 hp
  obtain ⟨each', he', heach⟩ := elementsOf_alike h he
  obtain ⟨inner', hi', hinner⟩ := contentsOf_alike h hi
  rw [ht, ha, he', hi']
  simp only [bind, Except.bind] at hp ⊢
  split at hp
  · rename_i hobj
    rw [if_pos hobj]
    obtain ⟨fs, hf, hp⟩ := bind_eq_ok_iff.1 hp
    obtain ⟨gs, hg, hfg⟩ := fieldsOf_alike h hf
    cases hp
    exact ⟨_, by rw [hg]; rfl, Alike.fields hfg⟩
  rename_i hobj
  rw [if_neg hobj]
  split at hp
  · rename_i harr
    rw [if_pos harr]
    cases heach with
    | none => cases hp; exact ⟨_, rfl, Alike.refl T _⟩
    | some hpq => cases hp; exact ⟨_, rfl, hpq.elements⟩
  rename_i harr
  rw [if_neg harr]
  split at hp
  · rename_i hobs
    rw [if_pos hobs]
    cases hinner with
    | none => cases hp; exact ⟨_, rfl, Alike.refl T _⟩
    | some hpq => cases hp; exact ⟨_, rfl, hpq.contents⟩
  rename_i hobs
  rw [if_neg hobs]
  cases hp
  exact ⟨_, rfl, Alike.refl T _⟩

end

/-! ## String patterns as mappings -/

section

open StringPattern

variable {h : PatternHead} {more : List (Value × Value)}

theorem lookup_headEntries {key : String}
    (hkey : key ∉ [Keyword.type, Keyword.required, Keyword.nullable]) :
    Value.lookup key (headEntries h ++ more) = Value.lookup key more := by
  simp only [List.mem_cons, List.not_mem_nil, or_false, not_or] at hkey
  simp [headEntries, Value.lookup, Value.isString, hkey, Ne.symm]

theorem givenType_headEntries (hne : h.type ≠ "") :
    givenType (headEntries h ++ more) = .string h.type := by
  simp [givenType, headEntries, Value.lookup, Value.isString, Value.truthy, hne]

/-- What the entries of a level say of a value itself is the level. -/
theorem givenLevel_headEntries (hmore : Value.lookup Keyword.allowedValues more = none) :
    givenLevel (headEntries h ++ more) h.type = ofHead h := by
  have hc : givenChoice (headEntries h ++ more) = none := by
    rw [givenChoice, lookup_headEntries (by decide), hmore]
    rfl
  unfold givenLevel
  rw [hc]
  simp [ofHead, headEntries, Value.lookup, Value.isString, isFalse, isTrue, Keyword.type,
    Keyword.required, Keyword.nullable]

/-- The entries of a level, with those of its contents, stand for the level and its contents. -/
theorem ofEntries_headEntries {each inner : Option Pattern} (hk : T.knows h.type = true)
    (hne : h.type ≠ "") (hmore : Value.lookup Keyword.allowedValues more = none)
    (he : elementsOf (readEntries T more) = .ok each)
    (hi : contentsOf (readEntries T more) = .ok inner)
    (hres : ∀ e ∈ more, Keyword.reserves e.1 = true) :
    ofEntries T (readEntries T (headEntries h ++ more)) =
      .ok (assemble (ofHead h) h.type each inner []) := by
  have ha' : allowedOf (readEntries T (headEntries h ++ more)) = .ok none := by
    rw [allowedOf, entryAt_readEntries, lookup_headEntries (by decide), hmore]
    rfl
  have he' : elementsOf (readEntries T (headEntries h ++ more)) = .ok each := by
    rw [← he, elementsOf, entryAt_readEntries, lookup_headEntries (by decide), elementsOf,
      entryAt_readEntries]
  have hi' : contentsOf (readEntries T (headEntries h ++ more)) = .ok inner := by
    rw [← hi, contentsOf, entryAt_readEntries, lookup_headEntries (by decide), contentsOf,
      entryAt_readEntries]
  have hf : fieldsOf (readEntries T (headEntries h ++ more)) = .ok [] := by
    refine fieldsOf_of_reserved fun e he => ?_
    rcases List.mem_append.1 he with he | he
    · simp only [headEntries, List.mem_cons, List.not_mem_nil, or_false] at he
      rcases he with rfl | rfl | rfl <;> rfl
    · exact hres e he
  rw [ofEntries_eq_assemble (givenType_headEntries hne) hk ha' he' hi' hf,
    givenLevel_headEntries hmore]

/-- A level without contents asks for nothing but its type, whatever the type is. -/
theorem alike_assemble_leaf {type : String} : (leaf l).Alike T (assemble l type none none []) := by
  unfold assemble
  split
  · exact alike_fields_nil
  split
  · exact Alike.refl T _
  split <;> exact Alike.refl T _

/-- The mapping that a string pattern is turned into is read like the pattern itself. -/
theorem read_toMapping {p : StringPattern} (hp : p.Grammatical T) (form : MappingForm) (id : Nat) :
    ∃ q, read T (p.toMapping form id) = .ok q ∧ (ofString p).Alike T q := by
  have hread : ∀ es, read T (.mapping form id es) = ofEntries T (readEntries T es) := fun _ => rfl
  induction hp with
  | @leaf h hk hne =>
    have he : elementsOf (readEntries T []) = .ok none := rfl
    have hi : contentsOf (readEntries T []) = .ok none := rfl
    rw [toMapping, hread, ← List.append_nil (headEntries h),
      ofEntries_headEntries hk hne rfl he hi (by simp)]
    exact ⟨_, rfl, alike_assemble_leaf⟩
  | @nest h p hk hnest _ ih =>
    have hne : h.type ≠ "" := by
      intro he
      simp [he, nestingTypes] at hnest
    obtain ⟨r, hr, hpr⟩ := ih
    rw [toMapping, hread, ofString]
    by_cases ht : h.type = "array"
    · have he : elementsOf (readEntries T [(.string Keyword.elements, p.toMapping form id)]) =
          .ok (some r) := by
        simp [elementsOf, readEntries, entryAt, Value.isString, hr, Except.map]
      have hi : contentsOf (readEntries T [(.string Keyword.elements, p.toMapping form id)]) =
          .ok none := rfl
      rw [if_pos ht, if_pos ht,
        ofEntries_headEntries hk hne rfl he hi (by simp [Keyword.reserves, Keyword.all])]
      refine ⟨_, rfl, ?_⟩
      rw [ht]
      exact hpr.elements
    · have ht' : h.type = "observable" := by simpa [nestingTypes, ht] using hnest
      have he : elementsOf (readEntries T [(.string Keyword.contents, p.toMapping form id)]) =
          .ok none := rfl
      have hi : contentsOf (readEntries T [(.string Keyword.contents, p.toMapping form id)]) =
          .ok (some r) := by
        have hn : p.toMapping form id ≠ .null := by cases p <;> simp [toMapping]
        simp [contentsOf, readEntries, entryAt, Value.isString, hr, Except.map]
      rw [if_neg ht, if_neg ht,
        ofEntries_headEntries hk hne rfl he hi (by simp [Keyword.reserves, Keyword.all])]
      refine ⟨_, rfl, ?_⟩
      rw [ht']
      exact hpr.contents

end

end Pattern

/-! ## Values that are read alike -/

section

open Pattern

/-- Whether a value stands for a pattern alike to what another one stands for, if that is one.  Null
leaves out the contents of an observable, so both or none have to be null. -/
structure ReadsAlike (T : TypeTable) (P Q : Value) : Prop where
  null : P = .null ↔ Q = .null
  read : ∀ p, Pattern.read T P = .ok p → ∃ q, Pattern.read T Q = .ok q ∧ p.Alike T q

variable {T : TypeTable} {P Q : Value}

theorem ReadsAlike.refl (T : TypeTable) (P : Value) : ReadsAlike T P P :=
  ⟨Iff.rfl, fun p hp => ⟨p, hp, Alike.refl T p⟩⟩

/-- Mappings are read alike if their entries are. -/
theorem ReadsAlike.of_entries {es es' : List (Value × Value)} (hP : P.entries? = some es)
    (hQ : Q.entries? = some es')
    (h : List.Forall₂ (EntryAlike T) (readEntries T es) (readEntries T es')) :
    ReadsAlike T P Q := by
  refine ⟨⟨?_, ?_⟩, fun p hp => ?_⟩
  · rintro rfl
    cases hP
  · rintro rfl
    cases hQ
  · rw [read_of_entries hP] at hp
    rw [read_of_entries hQ]
    exact ofEntries_alike h hp

theorem Pattern.EntryAlike.refl (T : TypeTable) (e : Entry) : EntryAlike T e e :=
  ⟨rfl, fun _ => rfl, Iff.rfl, fun _ p hp => ⟨p, hp, Alike.refl T p⟩⟩

/-- Under a key whose value can be a pattern an entry may hold what is read alike. -/
theorem Pattern.EntryAlike.of_readsAlike {k : Value} (hk : Keyword.isPlace k = true)
    (h : ReadsAlike T P Q) : EntryAlike T ⟨k, P, Pattern.read T P⟩ ⟨k, Q, Pattern.read T Q⟩ :=
  ⟨rfl, fun hk' => absurd (hk.symm.trans hk') (by simp), h.null, fun _ => h.read⟩

/-! ## Respelled patterns -/

/-- Respelled patterns are read alike. -/
theorem alike_of_respelled (h : Respelled T P Q) : ReadsAlike T P Q := by
  induction h using Respelled.rec (motive_2 := fun es es' _ =>
    List.Forall₂ (EntryAlike T) (readEntries T es) (readEntries T es')) with
  | same P => exact .refl T P
  | @built s p hs =>
    refine ⟨by cases p <;> simp [StringPattern.toValue], fun q hq => ?_⟩
    obtain ⟨p', hp', rfl⟩ := map_eq_ok_iff.1 hq
    cases hs.symm.trans (mapError_eq_ok_iff.1 hp')
    exact ⟨_, read_toValue T p, Alike.refl T _⟩
  | @mapped s p form id hs =>
    refine ⟨by cases p <;> simp [StringPattern.toMapping], fun q hq => ?_⟩
    obtain ⟨p', hp', rfl⟩ := map_eq_ok_iff.1 hq
    cases hs.symm.trans (mapError_eq_ok_iff.1 hp')
    exact read_toMapping (StringPattern.grammatical_of_parse hs) form id
  | entries hP hQ _ ih => exact .of_entries hP hQ ih
  | nil => exact .nil
  | keep e _ ih => exact .cons (.refl T _) ih
  | place hk _ _ ihP ih => exact .cons (.of_readsAlike hk ihP) ih

end

/-- **The spelling of a pattern does not matter.**  Respelling the string patterns of a verified
pattern, at any places, leaves it verified, and every value is checked in the same way by the string
engine and the object engine: with the same end under every name, and the same values shown to the
library and called. -/
theorem check_eq_of_respelled (T : TypeTable) {P Q : Value} (name : Option String)
    (h : Respelled T P Q) (hP : (Engine.verify T P name).result = .ok ()) (label : Option String) :
    (Engine.verify T Q label).result = .ok () ∧
      ∀ v, Engine.check T v Q label = Engine.check T v P label := by
  rw [Engine.result_verify] at hP ⊢
  obtain ⟨p, hp⟩ := verification_eq_ok_iff.1 hP
  obtain ⟨q, hq, hpq⟩ := (alike_of_respelled h).2 p hp
  refine ⟨verification_eq_ok_iff.2 ⟨q, hq⟩, fun v => ?_⟩
  rw [Engine.check_eq, Engine.check_eq, check_of_verify hp, check_of_verify hq, hpq v]

/-- What `optional array nullable string` spells. -/
def tagsPattern : StringPattern :=
  .nest ⟨"array", true, false, "array nullable string"⟩ (.leaf ⟨"string", false, true, "string"⟩)

/-- A pattern whose parts are texts, at places of two kinds. -/
def textPattern : Value :=
  .mapping .editable 2
    [(.string "user.tags", .string "optional array nullable string"),
      (.string "count", .mapping .editable 3
        [(.string "__type", .string "observable"), (.string "__value", .string "nullable number")])]

/-- The same pattern, with a mapping for one text and a string pattern for the other. -/
def mixedPattern : Value :=
  .mapping .editable 2
    [(.string "user.tags", tagsPattern.toMapping .editable 4),
      (.string "count", .mapping .editable 3
        [(.string "__type", .string "observable"),
          (.string "__value",
            StringPattern.toValue (.leaf ⟨"number", false, true, "number"⟩))])]

theorem respelled_mixedPattern : Respelled .standard textPattern mixedPattern :=
  .entries rfl rfl <|
    .place rfl (.mapped .editable 4 rfl) <|
    .place rfl (.entries rfl rfl (.keep _ (.place rfl (.built rfl) .nil))) .nil

theorem mixedPattern_checks_like_texts :
    Respelled .standard textPattern mixedPattern ∧
      (Engine.verify .standard textPattern none).result = .ok () ∧
      (Engine.verify .standard mixedPattern (some "job")).result = .ok () ∧
      ∀ v, Engine.check .standard v mixedPattern (some "job") =
        Engine.check .standard v textPattern (some "job") :=
  have hverified : (Engine.verify .standard textPattern none).result = .ok () :=
    (Engine.result_verify _ _ _).trans rfl
  ⟨respelled_mixedPattern, hverified,
    check_eq_of_respelled .standard none respelled_mixedPattern hverified (some "job")⟩

end DataShape
