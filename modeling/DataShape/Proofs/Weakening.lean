import DataShape.Proofs.Libraries

/-!
# Weaker patterns

A pattern that asks for less accepts more, at whatever place less is asked for, and a library that
recognises more does so too.

* `Level.Looser`, `Pattern.Weaker` — patterns that ask for less: a level against a level, and
  acceptance against acceptance; `Pattern.weaker_assemble` puts them together.
* `exists_derivation_modified` — a modifier more in a text, at whatever level.
* `Loosens`, `Loosens.reads` — entries of a mapping that ask for less; `Loosens.insert`,
  `Loosens.erase`, `Loosens.replace` are the ways to change a mapping so.
* `Weakened` — the ways to ask for less, at any place of a pattern and one after another;
  `readsWeaker_of_weakened` — a weakened pattern is read as a weaker one.
* `RecognisesMore`, `Pattern.succeeds_mono` — a library that recognises more accepts more.
* `weakening_accepts_more` — **weakening a pattern or a library never rejects more**.
-/

namespace DataShape

/-! ## Levels -/

/-- A level that asks no more of a value than another one of the same type. -/
structure Level.Looser (l l' : Level) : Prop where
  type : l'.type = l.type
  optional : l.isOptional = true → l'.isOptional = true
  nullable : l.isNullable = true → l'.isNullable = true
  choice : Option.Rel (· ⊆ ·) l.allowed l'.allowed

namespace Level.Looser

variable {T : TypeTable} {l l' : Level} {v : Value}

theorem settles (h : l.Looser l') (hs : l.Settles v) : l'.Settles v := by
  cases hs with
  | missing ho => exact .missing (h.optional ho)
  | null hn => exact .null (h.nullable hn)
  | choice hm hn ha hadmits =>
    obtain ⟨a, hmem, hadmits⟩ := hadmits
    have hchoice := h.choice
    rw [ha] at hchoice
    cases hallowed : l'.allowed with
    | none =>
      rw [hallowed] at hchoice
      cases hchoice
    | some vs' =>
      rw [hallowed] at hchoice
      cases hchoice with
      | some hsub => exact .choice hm hn hallowed ⟨a, hsub hmem, hadmits⟩

theorem opens (h : l.Looser l') (ho : l.Opens T v) : l'.Opens T v where
  notMissing := ho.notMissing
  notNull := ho.notNull
  noChoice := by
    have hchoice := h.choice
    rw [ho.noChoice] at hchoice
    generalize l'.allowed = allowed at hchoice
    cases hchoice
    rfl
  typed := h.type ▸ ho.typed

end Level.Looser

/-! ## Patterns -/

namespace Pattern

variable {T : TypeTable} {l l' : Level} {p q : Pattern}

/-- Whatever passes the first pattern passes the second. -/
def Weaker (T : TypeTable) (p q : Pattern) : Prop :=
  ∀ v, (p.check T v).succeeds = true → (q.check T v).succeeds = true

/-- Each field of the second list is one of the first with a weaker pattern. -/
def FieldsWeaker (T : TypeTable) (fs gs : List (String × Pattern)) : Prop :=
  ∀ g ∈ gs, ∃ f ∈ fs, f.1 = g.1 ∧ f.2.Weaker T g.2

/-- A part that is still asked for has a weaker pattern. -/
def PartWeaker (T : TypeTable) (o o' : Option Pattern) : Prop :=
  ∀ q, o' = some q → ∃ p, o = some p ∧ p.Weaker T q

theorem Weaker.refl (T : TypeTable) (p : Pattern) : p.Weaker T p := fun _ h => h

theorem Weaker.trans {r : Pattern} (h : p.Weaker T q) (h' : q.Weaker T r) : p.Weaker T r :=
  fun v hv => h' v (h v hv)

theorem PartWeaker.none {o : Option Pattern} : PartWeaker T o none := fun _ h => nomatch h

theorem PartWeaker.some (h : p.Weaker T q) : PartWeaker T (some p) (some q) := by
  rintro _ ⟨⟩
  exact ⟨p, rfl, h⟩

theorem FieldsWeaker.of_subset {fs gs : List (String × Pattern)} (h : gs ⊆ fs) :
    FieldsWeaker T fs gs :=
  fun g hg => ⟨g, h hg, rfl, .refl T _⟩

/-- What passes a pattern passes its level. -/
theorem level_of_succeeds {v : Value} (h : (p.check T v).succeeds = true) :
    p.level.Settles v ∨ p.level.Opens T v := by
  have hlevel : ∀ {parts : Unit → Run}, (p.level.check T v parts).succeeds = true →
      p.level.Settles v ∨ p.level.Opens T v :=
    fun h => (Level.succeeds_check_iff.1 h).imp_right And.left
  cases p <;> exact hlevel h

theorem weaker_leaf (h : p.level.Looser l') : p.Weaker T (leaf l') := by
  intro v hv
  rw [succeeds_check_leaf]
  exact (level_of_succeeds hv).imp h.settles h.opens

theorem weaker_elements (hl : l.Looser l') (h : p.Weaker T q) :
    (elements l p).Weaker T (elements l' q) := by
  intro v hv
  rw [succeeds_check_elements] at hv ⊢
  rcases hv with hs | ⟨ho, vs, hvs, hall⟩
  · exact .inl (hl.settles hs)
  · exact .inr ⟨hl.opens ho, vs, hvs, fun u hu => h u (hall u hu)⟩

theorem weaker_contents (hl : l.Looser l') (h : p.Weaker T q) :
    (contents l p).Weaker T (contents l' q) := by
  intro v hv
  rw [succeeds_check_contents] at hv ⊢
  rcases hv with hs | ⟨ho, u, hu, hp⟩
  · exact .inl (hl.settles hs)
  · exact .inr ⟨hl.opens ho, u, hu, h u hp⟩

theorem weaker_fields {fs gs : List (String × Pattern)} (hl : l.Looser l')
    (h : FieldsWeaker T fs gs) : (fields l fs).Weaker T (fields l' gs) := by
  intro v hv
  rw [succeeds_check_fields] at hv ⊢
  rcases hv with hs | ⟨ho, hall⟩
  · exact .inl (hl.settles hs)
  · refine .inr ⟨hl.opens ho, fun g hg => ?_⟩
    obtain ⟨f, hf, hkey, hfg⟩ := h g hg
    obtain ⟨u, hu, hp⟩ := hall f hf
    exact ⟨u, hkey ▸ hu, hfg u hp⟩

/-- **A pattern is weaker if its level is looser and its parts are weaker.** -/
theorem weaker_assemble {type : String} {each each' inner inner' : Option Pattern}
    {fs gs : List (String × Pattern)} (hl : l.Looser l') (he : PartWeaker T each each')
    (hi : PartWeaker T inner inner') (hf : type = "object" → FieldsWeaker T fs gs) :
    (assemble l type each inner fs).Weaker T (assemble l' type each' inner' gs) := by
  unfold assemble
  split
  · rename_i hobj
    exact weaker_fields hl (hf hobj)
  split
  · cases each' with
    | none =>
      refine weaker_leaf ?_
      cases each <;> exact hl
    | some q =>
      obtain ⟨p, rfl, hpq⟩ := he q rfl
      exact weaker_elements hl hpq
  split
  · cases inner' with
    | none =>
      refine weaker_leaf ?_
      cases inner <;> exact hl
    | some q =>
      obtain ⟨p, rfl, hpq⟩ := hi q rfl
      exact weaker_contents hl hpq
  · exact weaker_leaf hl

end Pattern

/-! ## A modifier more in a text -/

/-- A word that is no modifier stands at the type of the first level, or after it. -/
theorem type_at_or_after {ms rest before after : List String} {t₀ t : String}
    (h : ms ++ t₀ :: rest = before ++ t :: after) (hms : AreModifiers ms) (ht : ¬ IsModifier t) :
    (before = ms ∧ t = t₀ ∧ after = rest) ∨
      ∃ inner, before = ms ++ t₀ :: inner ∧ rest = inner ++ t :: after := by
  induction ms generalizing before with
  | nil =>
    cases before with
    | nil =>
      obtain ⟨rfl, rfl⟩ := List.cons.inj h
      exact .inl ⟨rfl, rfl, rfl⟩
    | cons w before =>
      obtain ⟨rfl, rfl⟩ := List.cons.inj h
      exact .inr ⟨before, rfl, rfl⟩
  | cons m ms ih =>
    obtain ⟨hm, hms⟩ := List.forall_mem_cons.1 hms
    cases before with
    | nil => exact absurd ((List.cons.inj h).1 ▸ hm) ht
    | cons w before =>
      obtain ⟨rfl, hrest⟩ := List.cons.inj h
      rcases ih hrest hms with ⟨rfl, rfl, rfl⟩ | ⟨inner, rfl, rfl⟩
      · exact .inl ⟨rfl, rfl, rfl⟩
      · exact .inr ⟨inner, rfl, rfl⟩

theorem areModifiers_concat {ms : List String} {m : String} (hms : AreModifiers ms)
    (hm : IsModifier m) : AreModifiers (ms ++ [m]) := by
  intro w hw
  rcases List.mem_append.1 hw with hw | hw
  · exact hms w hw
  · rw [List.mem_singleton.1 hw]
    exact hm

/-- A modifier more makes a level looser. -/
theorem looser_head (ms : List String) (m t : String) (ws ws' : List String) :
    (Pattern.ofHead (Derivation.head ms t ws)).Looser
      (Pattern.ofHead (Derivation.head (ms ++ [m]) t ws')) where
  type := rfl
  optional := by
    simp only [Pattern.ofHead, Derivation.head, decide_eq_true_eq, List.mem_append]
    exact .inl
  nullable := by
    simp only [Pattern.ofHead, Derivation.head, decide_eq_true_eq, List.mem_append]
    exact .inl
  choice := .none

theorem looser_head_refl (ms : List String) (t : String) (ws ws' : List String) :
    (Pattern.ofHead (Derivation.head ms t ws)).Looser (Pattern.ofHead (Derivation.head ms t ws')) :=
  ⟨rfl, id, id, .none⟩

theorem weaker_nest {T : TypeTable} {h h' : PatternHead} {p q : StringPattern}
    (hl : (Pattern.ofHead h).Looser (Pattern.ofHead h')) (hty : h'.type = h.type)
    (hpq : (Pattern.ofString p).Weaker T (Pattern.ofString q)) :
    (Pattern.ofString (.nest h p)).Weaker T (Pattern.ofString (.nest h' q)) := by
  rw [Pattern.ofString, Pattern.ofString, hty]
  split
  · exact Pattern.weaker_elements hl hpq
  · exact Pattern.weaker_contents hl hpq

/-- **A modifier more before a type**, at whatever level, leaves words derivable and makes what they
mean weaker. -/
theorem exists_derivation_modified {T : TypeTable} {d : Derivation} {before after : List String}
    {m t : String} (hd : d.IsValid T) (hw : d.words = before ++ t :: after)
    (hm : IsModifier m) (ht : ¬ IsModifier t) :
    ∃ d' : Derivation, d'.Derives T (before ++ m :: t :: after) ∧
      (Pattern.ofString d.pattern).Weaker T (Pattern.ofString d'.pattern) := by
  -- the induction is on the levels: the type is that of the outermost one, or stands further in
  induction hd generalizing before with
  | @last ms t₀ hms hk ht₀ =>
    rcases type_at_or_after hw hms ht with ⟨rfl, rfl, rfl⟩ | ⟨inner, -, hinner⟩
    · refine ⟨.last (before ++ [m]) t, ⟨.last (areModifiers_concat hms hm) hk ht, ?_⟩,
        Pattern.weaker_leaf (looser_head ..)⟩
      simp [Derivation.words]
    · simp at hinner
  | @nest ms t₀ d hms hk hn hd ih =>
    rcases type_at_or_after hw hms ht with ⟨rfl, rfl, rfl⟩ | ⟨inner, rfl, hinner⟩
    · refine ⟨.nest (before ++ [m]) t d, ⟨.nest (areModifiers_concat hms hm) hk hn hd, ?_⟩,
        weaker_nest (looser_head ..) rfl (.refl T _)⟩
      simp [Derivation.words]
    · -- the modifier belongs to a level of the contents
      obtain ⟨d', ⟨hd', hw'⟩, hweak⟩ := ih hinner
      refine ⟨.nest ms t₀ d', ⟨.nest hms hk hn hd', ?_⟩,
        weaker_nest (looser_head_refl ..) rfl hweak⟩
      simp [Derivation.words, hw']

/-! ## Entries of mappings -/

theorem Value.isObject_string (key : String) (l : Value) : l.isObject (.string key) = false := by
  cases l <;> simp [isObject]

theorem Value.eqv_string (key : String) (l : Value) : l.eqv (.string key) = l.isString key := by
  cases l with
  | string s => rw [eqv, isString, isString, Bool.beq_comm]
  | _ => simp [eqv, isString, kind, number?, array?, entries?, isObject]

namespace Entries

/-- Leaves out the entry under a key. -/
def erase (k : Value) (es : List (Value × Value)) : List (Value × Value) :=
  es.filter fun e => !(e.1.isObject k || e.1.eqv k)

variable {key : String} {es : List (Value × Value)}

theorem lookup_insert (k : String) (v : Value) :
    Value.lookup key (insert (.string k) v es) =
      if k = key then some v else Value.lookup key es := by
  induction es with
  | nil => simp [insert, Value.lookup, Value.isString]
  | cons e es ih =>
    obtain ⟨l, w⟩ := e
    rw [insert, Value.isObject_string, Value.eqv_string, Bool.false_or]
    by_cases hl : l = .string k
    · subst hl
      by_cases hk : k = key <;> simp [Value.lookup, Value.isString, hk]
    · have hne : l.isString k = false := Bool.eq_false_iff.2 fun h => hl (Value.isString_iff.1 h)
      rw [hne, if_neg (by simp), Value.lookup, Value.lookup, ih]
      by_cases hk : k = key
      · subst hk
        simp [hne]
      · simp [hk]

/-- A string key is the same as no other key. -/
theorem not_sameKey {k : Value} (h : k ≠ .string key) :
    (Value.isObject (.string key) k || Value.eqv (.string key) k) = false := by
  cases k with
  | string s =>
    have hne : (s == key) = false := beq_false_of_ne fun he => h (congrArg Value.string he)
    rw [Value.isObject_string, Value.eqv, Value.isString, hne]
    rfl
  | _ => simp [Value.eqv, Value.isObject, Value.isString]

theorem lookup_erase {k : Value} (hk : k ≠ .string key) :
    Value.lookup key (erase k es) = Value.lookup key es := by
  induction es with
  | nil => rfl
  | cons e es ih =>
    obtain ⟨l, w⟩ := e
    rw [erase, List.filter_cons, Value.lookup]
    by_cases hl : l = .string key
    · subst hl
      rw [not_sameKey hk, if_pos (by rfl), if_pos (Value.isString_iff.2 rfl), Value.lookup,
        if_pos (Value.isString_iff.2 rfl)]
    · have hne : ¬ l.isString key = true := fun h => hl (Value.isString_iff.1 h)
      rw [if_neg hne]
      split
      · rw [Value.lookup, if_neg hne]
        exact ih
      · exact ih

theorem lookup_erase_self : Value.lookup key (erase (.string key) es) = none := by
  refine Value.lookup_eq_none_iff.2 fun hmem => ?_
  obtain ⟨⟨k, v⟩, he, rfl⟩ := List.mem_map.1 hmem
  have hsame := (List.mem_filter.1 he).2
  rw [Value.eqv_string, Value.isString_iff.2 rfl, Bool.or_true] at hsame
  cases hsame

/-- What is found after one value is replaced: the same as before, unless that value was found. -/
theorem lookup_replace (key : String) (k E E' : Value)
    (before after : List (Value × Value)) :
    Value.lookup key (before ++ (k, E') :: after) = Value.lookup key (before ++ (k, E) :: after) ∨
      (k = .string key ∧ Value.lookup key (before ++ (k, E) :: after) = some E ∧
        Value.lookup key (before ++ (k, E') :: after) = some E') := by
  rw [Value.lookup_append, Value.lookup_append, Value.lookup, Value.lookup]
  cases Value.lookup key before with
  | some u => exact .inl rfl
  | none =>
    cases hk : k.isString key with
    | true => exact .inr ⟨Value.isString_iff.1 hk, rfl, rfl⟩
    | false => exact .inl rfl

end Entries

/-! ## Mappings that ask for less -/

/-- What a weaker pattern stands for is weaker; null, which leaves out contents, stays null. -/
structure Value.ReadsWeaker (T : TypeTable) (P Q : Value) : Prop where
  null : P = .null ↔ Q = .null
  reads : ∀ p, Pattern.read T P = .ok p → ∃ q, Pattern.read T Q = .ok q ∧ p.Weaker T q

theorem Value.ReadsWeaker.refl (T : TypeTable) (P : Value) : P.ReadsWeaker T P :=
  ⟨Iff.rfl, fun p hp => ⟨p, hp, .refl T p⟩⟩

theorem Value.ReadsWeaker.trans {T : TypeTable} {P Q R : Value} (h : P.ReadsWeaker T Q)
    (h' : Q.ReadsWeaker T R) : P.ReadsWeaker T R where
  null := h.null.trans h'.null
  reads := by
    intro p hp
    obtain ⟨q, hq, hpq⟩ := h.reads p hp
    obtain ⟨r, hr, hqr⟩ := h'.reads q hq
    exact ⟨r, hr, hpq.trans hqr⟩

/-- Entries that ask for less than others: of the value itself and of each of its parts. -/
structure Loosens (T : TypeTable) (es es' : List (Value × Value)) : Prop where
  type : Value.lookup Keyword.type es' = Value.lookup Keyword.type es
  required : Value.lookup Keyword.required es = some (.boolean false) →
    Value.lookup Keyword.required es' = some (.boolean false)
  nullable : Value.lookup Keyword.nullable es = some (.boolean true) →
    Value.lookup Keyword.nullable es' = some (.boolean true)
  choice : Value.lookup Keyword.allowedValues es' = Value.lookup Keyword.allowedValues es ∨
    ∃ A A' vs vs', Value.lookup Keyword.allowedValues es = some A ∧ A.members? = some vs ∧
      Value.lookup Keyword.allowedValues es' = some A' ∧ A'.members? = some vs' ∧ vs ⊆ vs'
  elements : ∀ E', Value.lookup Keyword.elements es' = some E' →
    ∃ E, Value.lookup Keyword.elements es = some E ∧ E.ReadsWeaker T E'
  contents : ∀ E', Value.lookup Keyword.contents es' = some E' →
    ∃ E, Value.lookup Keyword.contents es = some E ∧ E.ReadsWeaker T E'
  fields : ∀ fs, Pattern.fieldsOf (Pattern.readEntries T es) = .ok fs →
    ∃ gs, Pattern.fieldsOf (Pattern.readEntries T es') = .ok gs ∧ Pattern.FieldsWeaker T fs gs

namespace Loosens

open Pattern

variable {T : TypeTable} {es es' : List (Value × Value)} (h : Loosens T es es')

include h

theorem givenType_eq : givenType es' = givenType es := by
  rw [givenType, givenType, h.type]

theorem givenChoice_rel : Option.Rel (· ⊆ ·) (givenChoice es) (givenChoice es') := by
  rcases h.choice with hsame | ⟨A, A', vs, vs', hA, hvs, hA', hvs', hsub⟩
  · rw [givenChoice, givenChoice, hsame]
    cases (Value.lookup Keyword.allowedValues es).bind Value.members? with
    | none => exact .none
    | some vs => exact .some (List.Subset.refl vs)
  · rw [givenChoice, givenChoice, hA, hA', Option.bind_some, Option.bind_some, hvs, hvs']
    exact .some hsub

theorem level (type : String) : (givenLevel es type).Looser (givenLevel es' type) where
  type := rfl
  optional := by
    simp only [givenLevel, any_isFalse_iff]
    exact h.required
  nullable := by
    simp only [givenLevel, any_isTrue_iff]
    exact h.nullable
  choice := h.givenChoice_rel

theorem allowedOf_ok {allowed : Option (List Value)}
    (ha : allowedOf (readEntries T es) = .ok allowed) :
    allowedOf (readEntries T es') = .ok (givenChoice es') := by
  rcases h.choice with hsame | ⟨A, A', vs, vs', -, -, hA', hvs', -⟩
  · have hchoice : givenChoice es' = givenChoice es := by
      rw [givenChoice, givenChoice, hsame]
    rw [hchoice, ← givenChoice_of_allowedOf ha, ← ha, allowedOf, allowedOf, entryAt_readEntries,
      entryAt_readEntries, hsame]
  · rw [allowedOf, entryAt_readEntries, givenChoice, hA', Option.bind_some]
    cases A' <;> cases hvs' <;> rfl

theorem elementsOf_ok {each : Option Pattern} (he : elementsOf (readEntries T es) = .ok each) :
    ∃ each', elementsOf (readEntries T es') = .ok each' ∧ PartWeaker T each each' := by
  rw [elementsOf, entryAt_readEntries]
  cases hE' : Value.lookup Keyword.elements es' with
  | none => exact ⟨none, rfl, .none⟩
  | some E' =>
    obtain ⟨E, hE, hweak⟩ := h.elements E' hE'
    rcases Pattern.elementsOf_ok he with ⟨hnone, -⟩ | ⟨F, p, hF, hp, rfl⟩
    · cases hnone.symm.trans hE
    · cases hF.symm.trans hE
      obtain ⟨q, hq, hpq⟩ := hweak.reads p hp
      exact ⟨some q, by simp [hq, Except.map], .some hpq⟩

theorem contentsOf_ok {inner : Option Pattern} (hi : contentsOf (readEntries T es) = .ok inner) :
    ∃ inner', contentsOf (readEntries T es') = .ok inner' ∧ PartWeaker T inner inner' := by
  rw [contentsOf, entryAt_readEntries]
  cases hE' : Value.lookup Keyword.contents es' with
  | none => exact ⟨none, rfl, .none⟩
  | some E' =>
    obtain ⟨E, hE, hweak⟩ := h.contents E' hE'
    by_cases hnull : E' = .null
    · subst hnull
      exact ⟨none, rfl, .none⟩
    · rcases Pattern.contentsOf_ok hi with ⟨hall, -⟩ | ⟨F, p, hF, -, hp, rfl⟩
      · exact absurd (hweak.null.1 (hall E hE)) hnull
      · cases hF.symm.trans hE
        obtain ⟨q, hq, hpq⟩ := hweak.reads p hp
        exact ⟨some q, by simp [hq, Except.map], .some hpq⟩

/-- **Entries that ask for less stand for a weaker pattern.** -/
theorem reads {p : Pattern} (hp : ofEntries T (readEntries T es) = .ok p) :
    ∃ q, ofEntries T (readEntries T es') = .ok q ∧ p.Weaker T q := by
  obtain ⟨type, each, inner, fs, hty, hk, ha, he, hi, hf, rfl⟩ := ofEntries_eq_ok_iff.1 hp
  obtain ⟨each', he', heach⟩ := h.elementsOf_ok he
  obtain ⟨inner', hi', hinner⟩ := h.contentsOf_ok hi
  -- fields are read for objects only
  obtain ⟨gs, hg⟩ : ∃ gs, type = "object" →
      fieldsOf (readEntries T es') = .ok gs ∧ FieldsWeaker T fs gs := by
    by_cases hobj : type = "object"
    · obtain ⟨gs, hgs, hweak⟩ := h.fields fs (hf hobj)
      exact ⟨gs, fun _ => ⟨hgs, hweak⟩⟩
    · exact ⟨[], fun h => absurd h hobj⟩
  exact ⟨assemble (givenLevel es' type) type each' inner' gs,
    ofEntries_eq_ok_iff.2 ⟨type, each', inner', gs, h.givenType_eq.trans hty, hk,
      h.allowedOf_ok ha, he', hi', fun hobj => (hg hobj).1, rfl⟩,
    weaker_assemble (h.level type) heach hinner fun hobj => (hg hobj).2⟩

end Loosens

/-! ## Ways to ask for less -/

/-- A pattern and one that asks for less: `optional` or `nullable` is put before the type of a level
of a text, `__required` is set to false or `__nullable` to true, a field, the elements or the
contents are left out, values are added to a choice, or the pattern of a part is weakened. -/
inductive Weakened : Value → Value → Prop
  | refl (P) : Weakened P P
  | trans {P Q R} : Weakened P Q → Weakened Q R → Weakened P R
  | modifier {s s' before after m t} : words s = before ++ t :: after →
      words s' = before ++ m :: t :: after → IsModifier m → ¬ IsModifier t →
      Weakened (.string s) (.string s')
  | optional {P Q es} : P.entries? = some es →
      Q.entries? = some (Entries.insert (.string Keyword.required) (.boolean false) es) →
      Weakened P Q
  | nullable {P Q es} : P.entries? = some es →
      Q.entries? = some (Entries.insert (.string Keyword.nullable) (.boolean true) es) →
      Weakened P Q
  /-- A key that is not reserved, or that of the elements or of the contents, is left out. -/
  | omission {P Q es k} : P.entries? = some es → Keyword.isPlace k = true →
      Q.entries? = some (Entries.erase k es) → Weakened P Q
  | choice {P Q es A A' vs vs'} : P.entries? = some es →
      Value.lookup Keyword.allowedValues es = some A → A.members? = some vs →
      A'.members? = some vs' → vs ⊆ vs' →
      Q.entries? = some (Entries.insert (.string Keyword.allowedValues) A' es) → Weakened P Q
  | part {P Q E E' before after k} : P.entries? = some (before ++ (k, E) :: after) →
      Keyword.isPlace k = true → Weakened E E' →
      Q.entries? = some (before ++ (k, E') :: after) → Weakened P Q

section

variable {T : TypeTable} {es before after : List (Value × Value)} {k E E' v : Value}

/-- Setting a reserved key changes no field. -/
theorem fieldsOf_insert {key : String} (hres : Keyword.reserves (.string key) = true) :
    Pattern.fieldsOf (Pattern.readEntries T (Entries.insert (.string key) v es)) =
      Pattern.fieldsOf (Pattern.readEntries T es) := by
  have hskip : ∀ {F : Value} {rest : List (Value × Value)},
      Pattern.fieldsOf (Pattern.readEntries T ((.string key, F) :: rest)) =
        Pattern.fieldsOf (Pattern.readEntries T rest) := by
    intro F rest
    rw [Pattern.readEntries, Pattern.fieldsOf, if_pos hres]
  induction es with
  | nil => exact hskip
  | cons e es ih =>
    obtain ⟨l, w⟩ := e
    rw [Entries.insert, Value.isObject_string, Value.eqv_string, Bool.false_or]
    split
    · rename_i hl
      rw [Value.isString_iff.1 hl, hskip, hskip]
    · rw [Pattern.readEntries, Pattern.readEntries, Pattern.fieldsOf, Pattern.fieldsOf, ih]

theorem fieldsOf_filter (keep : Value × Value → Bool) {fs : List (String × Pattern)}
    (h : Pattern.fieldsOf (Pattern.readEntries T es) = .ok fs) :
    ∃ gs, Pattern.fieldsOf (Pattern.readEntries T (es.filter keep)) = .ok gs ∧ gs ⊆ fs := by
  induction es generalizing fs with
  | nil => exact ⟨fs, h, List.Subset.refl fs⟩
  | cons e es ih =>
    obtain ⟨key, F⟩ := e
    rw [List.filter_cons]
    rcases Pattern.fieldsOf_cons_iff.1 h with ⟨hres, hes⟩ | ⟨k, q, fs, rfl, hk, hq, hes, rfl⟩
    · obtain ⟨gs, hgs, hsub⟩ := ih hes
      split
      · exact ⟨gs, Pattern.fieldsOf_cons_iff.2 (.inl ⟨hres, hgs⟩), hsub⟩
      · exact ⟨gs, hgs, hsub⟩
    · obtain ⟨gs, hgs, hsub⟩ := ih hes
      split
      · exact ⟨(k, q) :: gs, Pattern.fieldsOf_cons_iff.2 (.inr ⟨k, q, gs, rfl, hk, hq, hgs, rfl⟩),
          List.cons_subset_cons _ hsub⟩
      · exact ⟨gs, hgs, List.subset_cons_of_subset _ hsub⟩

theorem Pattern.FieldsWeaker.cons {key : String} {p q : Pattern} {fs gs : List (String × Pattern)}
    (hpq : p.Weaker T q) (h : FieldsWeaker T fs gs) :
    FieldsWeaker T ((key, p) :: fs) ((key, q) :: gs) := by
  intro g hg
  rcases List.mem_cons.1 hg with rfl | hg
  · exact ⟨(key, p), List.mem_cons_self, rfl, hpq⟩
  · obtain ⟨f, hf, hfg⟩ := h g hg
    exact ⟨f, List.mem_cons_of_mem _ hf, hfg⟩

theorem fieldsOf_replace (hE : E.ReadsWeaker T E') {fs : List (String × Pattern)}
    (h : Pattern.fieldsOf (Pattern.readEntries T (before ++ (k, E) :: after)) = .ok fs) :
    ∃ gs, Pattern.fieldsOf (Pattern.readEntries T (before ++ (k, E') :: after)) = .ok gs ∧
      Pattern.FieldsWeaker T fs gs := by
  induction before generalizing fs with
  | nil =>
    rcases Pattern.fieldsOf_cons_iff.1 h with ⟨hres, hes⟩ | ⟨key, p, fs, rfl, hk, hp, hes, rfl⟩
    · exact ⟨fs, Pattern.fieldsOf_cons_iff.2 (.inl ⟨hres, hes⟩), .of_subset (List.Subset.refl fs)⟩
    · obtain ⟨q, hq, hpq⟩ := hE.reads p hp
      exact ⟨(key, q) :: fs, Pattern.fieldsOf_cons_iff.2 (.inr ⟨key, q, fs, rfl, hk, hq, hes, rfl⟩),
        .cons hpq (.of_subset (List.Subset.refl fs))⟩
  | cons e before ih =>
    obtain ⟨key, F⟩ := e
    rcases Pattern.fieldsOf_cons_iff.1 h with ⟨hres, hes⟩ | ⟨l, p, fs, rfl, hk, hp, hes, rfl⟩
    · obtain ⟨gs, hgs, hweak⟩ := ih hes
      exact ⟨gs, Pattern.fieldsOf_cons_iff.2 (.inl ⟨hres, hgs⟩), hweak⟩
    · obtain ⟨gs, hgs, hweak⟩ := ih hes
      exact ⟨(l, p) :: gs, Pattern.fieldsOf_cons_iff.2 (.inr ⟨l, p, gs, rfl, hk, hp, hgs, rfl⟩),
        .cons (.refl T p) hweak⟩

namespace Loosens

/-- A setting is changed to one that asks for less. -/
theorem insert {key : String}
    (hkey : key ∈ [Keyword.required, Keyword.nullable, Keyword.allowedValues])
    (hrequired : key = Keyword.required → v = .boolean false)
    (hnullable : key = Keyword.nullable → v = .boolean true)
    (hchoice : key = Keyword.allowedValues → ∃ A vs vs',
      Value.lookup Keyword.allowedValues es = some A ∧ A.members? = some vs ∧
        v.members? = some vs' ∧ vs ⊆ vs') :
    Loosens T es (Entries.insert (.string key) v es) := by
  -- all other keys, and with them the type and the parts, are found as before
  have hother : ∀ {key'}, key ≠ key' →
      Value.lookup key' (Entries.insert (.string key) v es) = Value.lookup key' es :=
    fun h => by rw [Entries.lookup_insert, if_neg h]
  have hself : Value.lookup key (Entries.insert (.string key) v es) = some v := by
    rw [Entries.lookup_insert, if_pos rfl]
  simp only [List.mem_cons, List.not_mem_nil, or_false] at hkey
  have hne : key ≠ Keyword.type ∧ key ≠ Keyword.elements ∧ key ≠ Keyword.contents := by
    rcases hkey with rfl | rfl | rfl <;> decide
  have hres : Keyword.reserves (.string key) = true := by
    rcases hkey with rfl | rfl | rfl <;> rfl
  refine
    { type := hother hne.1, required := fun h => ?_, nullable := fun h => ?_, choice := ?_,
      elements := fun E' hE' => ?_, contents := fun E' hE' => ?_, fields := fun fs hfs => ?_ }
  · by_cases hk : key = Keyword.required
    · rw [← hk, hself, hrequired hk]
    · rw [hother hk, h]
  · by_cases hk : key = Keyword.nullable
    · rw [← hk, hself, hnullable hk]
    · rw [hother hk, h]
  · by_cases hk : key = Keyword.allowedValues
    · obtain ⟨A, vs, vs', hA, hvs, hvs', hsub⟩ := hchoice hk
      exact .inr ⟨A, v, vs, vs', hA, hvs, hk ▸ hself, hvs', hsub⟩
    · exact .inl (hother hk)
  · exact ⟨E', hother hne.2.1 ▸ hE', .refl T E'⟩
  · exact ⟨E', hother hne.2.2 ▸ hE', .refl T E'⟩
  · exact ⟨fs, (fieldsOf_insert hres).trans hfs, .of_subset (List.Subset.refl fs)⟩

/-- Settings are found as before, and the parts are weaker or left out. -/
theorem of_parts {es' : List (Value × Value)}
    (hsetting : ∀ key, Keyword.isPlace (.string key) = false →
      Value.lookup key es' = Value.lookup key es)
    (hpart : ∀ key E', Value.lookup key es' = some E' →
      ∃ E, Value.lookup key es = some E ∧ E.ReadsWeaker T E')
    (hfields : ∀ fs, Pattern.fieldsOf (Pattern.readEntries T es) = .ok fs →
      ∃ gs, Pattern.fieldsOf (Pattern.readEntries T es') = .ok gs ∧
        Pattern.FieldsWeaker T fs gs) : Loosens T es es' where
  type := hsetting _ rfl
  required h := (hsetting _ rfl).trans h
  nullable h := (hsetting _ rfl).trans h
  choice := .inl (hsetting _ rfl)
  elements := hpart _
  contents := hpart _
  fields := hfields

theorem ne_of_isPlace (hk : Keyword.isPlace k = true) {key : String}
    (hkey : Keyword.isPlace (.string key) = false) : k ≠ .string key := by
  rintro rfl
  exact Bool.noConfusion (hk.symm.trans hkey)

/-- A part is left out. -/
theorem erase (hk : Keyword.isPlace k = true) : Loosens T es (Entries.erase k es) := by
  refine of_parts (fun key hkey => ?_) (fun key E' hE' => ?_) (fun fs hfs => ?_)
  · exact Entries.lookup_erase (ne_of_isPlace hk hkey)
  · by_cases hkey : k = .string key
    · rw [hkey, Entries.lookup_erase_self] at hE'
      cases hE'
    · rw [Entries.lookup_erase hkey] at hE'
      exact ⟨E', hE', .refl T E'⟩
  · obtain ⟨gs, hgs, hsub⟩ := fieldsOf_filter _ hfs
    exact ⟨gs, hgs, .of_subset hsub⟩

/-- The pattern of a part is replaced by a weaker one. -/
theorem replace (hk : Keyword.isPlace k = true) (hE : E.ReadsWeaker T E') :
    Loosens T (before ++ (k, E) :: after) (before ++ (k, E') :: after) := by
  refine of_parts (fun key hkey => ?_) (fun key F' hF' => ?_) (fun _ hfs => fieldsOf_replace hE hfs)
  · rcases Entries.lookup_replace key k E E' before after with h | ⟨hkey', -, -⟩
    · exact h
    · exact absurd hkey' (ne_of_isPlace hk hkey)
  · rcases Entries.lookup_replace key k E E' before after with h | ⟨-, hold, hnew⟩
    · exact ⟨F', h ▸ hF', .refl T F'⟩
    · cases hnew.symm.trans hF'
      exact ⟨E, hold, hE⟩

end Loosens

/-- Mappings whose entries ask for less are read as weaker patterns. -/
theorem readsWeaker_of_loosens {P Q : Value} {es es' : List (Value × Value)}
    (hP : P.entries? = some es) (hQ : Q.entries? = some es') (h : Loosens T es es') :
    P.ReadsWeaker T Q where
  null := by
    constructor <;> rintro rfl
    · cases hP
    · cases hQ
  reads := by
    intro p hp
    rw [Pattern.read_of_entries hP] at hp
    rw [Pattern.read_of_entries hQ]
    exact h.reads hp

theorem readsWeaker_of_modifier {s s' m t : String} {before after : List String}
    (hs : words s = before ++ t :: after) (hs' : words s' = before ++ m :: t :: after)
    (hm : IsModifier m) (ht : ¬ IsModifier t) :
    (Value.string s).ReadsWeaker T (.string s') where
  null := by simp
  reads := by
    intro p hp
    obtain ⟨sp, hsp, rfl⟩ := map_eq_ok_iff.1 hp
    obtain ⟨d, hd, rfl⟩ := StringPattern.parse_eq_ok_iff.1 (mapError_eq_ok_iff.1 hsp)
    obtain ⟨d', hd', hweak⟩ := exists_derivation_modified hd.1 (hd.2.trans hs) hm ht
    have hparse : StringPattern.parse T s' = .ok d'.pattern :=
      StringPattern.parse_eq_ok_iff.2 ⟨d', hs' ▸ hd', rfl⟩
    exact ⟨_, by rw [Pattern.read, hparse]; rfl, hweak⟩

/-- **A weakened pattern is read as a weaker one.** -/
theorem readsWeaker_of_weakened {P Q : Value} (h : Weakened P Q) : P.ReadsWeaker T Q := by
  induction h with
  | refl P => exact .refl T P
  | trans _ _ ih ih' => exact ih.trans ih'
  | modifier hs hs' hm ht => exact readsWeaker_of_modifier hs hs' hm ht
  | optional hP hQ =>
    refine readsWeaker_of_loosens hP hQ (.insert (by simp) (fun _ => rfl) ?_ ?_) <;>
      exact fun h => absurd h (by decide)
  | nullable hP hQ =>
    refine readsWeaker_of_loosens hP hQ (.insert (by simp) ?_ (fun _ => rfl) ?_) <;>
      exact fun h => absurd h (by decide)
  | omission hP hk hQ => exact readsWeaker_of_loosens hP hQ (.erase hk)
  | choice hP hA hvs hvs' hsub hQ =>
    refine readsWeaker_of_loosens hP hQ
      (.insert (by simp) ?_ ?_ fun _ => ⟨_, _, _, hA, hvs, hvs', hsub⟩) <;>
      exact fun h => absurd h (by decide)
  | part hP hk _ hQ ih => exact readsWeaker_of_loosens hP hQ (.replace hk ih)

end

/-! ## Libraries that recognise more -/

/-- Whether the second library recognises all that the first does.  Where there is no library,
nothing is recognised. -/
def RecognisesMore (library library' : Option Library) : Prop :=
  ∀ l, library = some l →
    ∃ l', library' = some l' ∧ ∀ v, l.recognise v = .yes → l'.recognise v = .yes

section

variable {T T' : TypeTable}

theorem Level.Opens.mono {l : Level} {v : Value}
    (h : (T.check v l.type).succeeds = true → (T'.check v l.type).succeeds = true)
    (ho : l.Opens T v) : l.Opens T' v :=
  ⟨ho.notMissing, ho.notNull, ho.noChoice, h ho.typed⟩

/-- **Tests that let more values through make checks that accept more.** -/
theorem Pattern.succeeds_mono
    (h : ∀ v type, (T.check v type).succeeds = true → (T'.check v type).succeeds = true)
    (p : Pattern) (v : Value) (hp : (p.check T v).succeeds = true) :
    (p.check T' v).succeeds = true := by
  induction p using Pattern.induct generalizing v with
  | leaf l =>
    rw [succeeds_check_leaf] at hp ⊢
    exact hp.imp_right (Level.Opens.mono (h v l.type))
  | elements l p ih =>
    rw [succeeds_check_elements] at hp ⊢
    rcases hp with hs | ⟨ho, vs, hvs, hall⟩
    · exact .inl hs
    · exact .inr ⟨ho.mono (h v l.type), vs, hvs, fun u hu => ih u (hall u hu)⟩
  | contents l p ih =>
    rw [succeeds_check_contents] at hp ⊢
    rcases hp with hs | ⟨ho, u, hu, hpu⟩
    · exact .inl hs
    · exact .inr ⟨ho.mono (h v l.type), u, hu, ih u hpu⟩
  | fields l fs ih =>
    rw [succeeds_check_fields] at hp ⊢
    rcases hp with hs | ⟨ho, hall⟩
    · exact .inl hs
    · refine .inr ⟨ho.mono (h v l.type), fun f hf => ?_⟩
      obtain ⟨u, hu, hpu⟩ := hall f hf
      exact ⟨u, hu, ih f hf u hpu⟩

end

theorem TypeTable.succeeds_check_mono {library library' : Option Library}
    (h : RecognisesMore library library') (v type : Value)
    (hv : ((standardWith library).check v type).succeeds = true) :
    ((standardWith library').check v type).succeeds = true := by
  by_cases hobs : type = .string "observable"
  · subst hobs
    obtain ⟨l, hl, hyes⟩ : HasType library "observable" v := succeeds_check_standardWith.1 hv
    obtain ⟨l', hl', hmore⟩ := h l hl
    exact succeeds_check_standardWith.2 ⟨l', hl', hmore v hyes⟩
  · rw [check_of_ne_observable hobs] at hv ⊢
    exact hv

/-- **Weakening a pattern or a library never rejects more.**  A pattern that asks for less than a
verified one is verified too, and with a library that recognises no less, or without any on both
sides, it accepts whatever that one accepts, under every name. -/
theorem weakening_accepts_more {library library' : Option Library} {P Q : Value}
    {name : Option String} (hlib : RecognisesMore library library') (h : Weakened P Q)
    (hP : (verification (.standardWith library) P).outcome name = .ok ()) :
    (verification (.standardWith library') Q).outcome name = .ok () ∧
      ∀ v, (check (.standardWith library) v P).outcome name = .ok () →
        (check (.standardWith library') v Q).outcome name = .ok () := by
  obtain ⟨p, hp⟩ := verification_eq_ok_iff.1 hP
  obtain ⟨q, hq, hpq⟩ := (readsWeaker_of_weakened (T := .standardWith library) h).reads p hp
  have hq' : verify (.standardWith library') Q = .ok q :=
    (read_standardWith library' library Q).trans hq
  refine ⟨verification_eq_ok_iff.2 ⟨q, hq'⟩, fun v hv => ?_⟩
  rw [check_of_verify hp, Run.outcome_eq_ok_iff] at hv
  rw [check_of_verify hq', Run.outcome_eq_ok_iff]
  -- first the pattern is exchanged, with the same library, and then the library
  exact q.succeeds_mono (TypeTable.succeeds_check_mono hlib) v (hpq v hv)

/-- The mode of an order: one of the given values, with further settings. -/
def modePattern (modes : List String) (settings : List (Value × Value)) : Value :=
  .mapping .editable 3
    ((.string "__allowedValues", .sequence .list 4 (modes.map .string)) :: settings)

/-- The pattern of an order, with those of the tags and of the mode, and with further fields. -/
def orderPattern (tags : String) (mode : Value) (more : List (Value × Value)) : Value :=
  .mapping .editable 2
    ((.string "user.tags", .string tags) :: (.string "mode", mode) ::
      (.string "badge", .string "observable number") :: more)

/-- The pattern of an order before and after it is weakened at four places. -/
theorem orderPattern_weakened :
    Weakened
      (orderPattern "array string" (modePattern ["fast"] []) [(.string "count", .string "number")])
      (orderPattern "array nullable string"
        (modePattern ["fast", "slow"] [(.string "__required", .boolean false)]) []) := by
  let count : List (Value × Value) := [(.string "count", .string "number")]
  have htags : Weakened (.string "array string") (.string "array nullable string") :=
    .modifier (show words "array string" = ["array"] ++ "string" :: [] from rfl) rfl
      (.inr rfl) (by decide)
  have hmodes : Weakened (modePattern ["fast"] []) (modePattern ["fast", "slow"] []) :=
    .choice rfl rfl rfl (show (Value.sequence .list 4 [.string "fast", .string "slow"]).members? =
      some [.string "fast", .string "slow"] from rfl) (by simp) (by with_unfolding_all rfl)
  have hrequired : Weakened (modePattern ["fast", "slow"] [])
      (modePattern ["fast", "slow"] [(.string "__required", .boolean false)]) :=
    .optional rfl (by with_unfolding_all rfl)
  have hfirst : ∀ mode, Weakened (orderPattern "array string" mode count)
      (orderPattern "array nullable string" mode count) := fun mode =>
    .part (show (orderPattern "array string" mode count).entries? =
      some ([] ++ (.string "user.tags", .string "array string") :: _) from rfl) rfl htags rfl
  have hsecond : Weakened (orderPattern "array nullable string" (modePattern ["fast"] []) count)
      (orderPattern "array nullable string"
        (modePattern ["fast", "slow"] [(.string "__required", .boolean false)]) count) :=
    .part (show (orderPattern "array nullable string" (modePattern ["fast"] []) count).entries? =
      some ([(.string "user.tags", .string "array nullable string")] ++
        (.string "mode", modePattern ["fast"] []) :: _) from rfl) rfl (hmodes.trans hrequired) rfl
  have hthird : ∀ mode, Weakened (orderPattern "array nullable string" mode count)
      (orderPattern "array nullable string" mode []) := fun mode =>
    .omission rfl (show Keyword.isPlace (.string "count") = true from rfl)
      (by with_unfolding_all rfl)
  exact (hfirst _).trans (hsecond.trans (hthird _))

/-- An order. -/
def order : Value :=
  .mapping .editable 8
    [(.string "user", .mapping .editable 9 [(.string "tags", .sequence .tuple 10 [.string "new"])]),
      (.string "mode", .string "fast"), (.string "badge", .observable 11 (.integer 1)),
      (.string "count", .integer 3)]

theorem order_passes_weakened :
    let P := orderPattern "array string" (modePattern ["fast"] [])
      [(.string "count", .string "number")]
    let Q := orderPattern "array nullable string"
      (modePattern ["fast", "slow"] [(.string "__required", .boolean false)]) []
    let library := some (Library.ofKind 1 "ko")
    let library' := some (Library.ofKind 2 "callable")
    RecognisesMore library library' ∧ Weakened P Q ∧
      (verification (.standardWith library) P).outcome none = .ok () ∧
      (verification (.standardWith library') Q).outcome none = .ok () ∧
      (check (.standardWith library) order P).outcome none = .ok () ∧
      (check (.standardWith library') order Q).outcome none = .ok () := by
  intro P Q library library'
  have hlib : RecognisesMore library library' := by
    intro l hl
    cases Option.some.inj hl
    refine ⟨_, rfl, fun v hv => ?_⟩
    cases v <;> first | rfl | cases hv
  have hP : (verification (.standardWith library) P).outcome none = .ok () := rfl
  have horder : (check (.standardWith library) order P).outcome none = .ok () := by
    decide +kernel
  obtain ⟨hQ, haccepts⟩ := weakening_accepts_more hlib orderPattern_weakened hP
  exact ⟨hlib, orderPattern_weakened, hP, hQ, horder, haccepts order horder⟩

end DataShape
