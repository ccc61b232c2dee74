import DataShape.Proofs.Grammar

/-!
# Sources of string patterns

Each level of a parsed string pattern keeps its words from the type on.  The modifiers of the level
are not among them, those of the levels inside are.

* `StringPattern.levels`, `StringPattern.unmodified`, `StringPattern.spelled` — the levels of a
  pattern, a level without its modifiers, and the text that a level gives for itself.
* `Derivation.withModifiers` — a tree of the grammar with other modifiers at its outermost level;
  `source_pattern`, `pattern_unmodified`, `pattern_restored` — what it means.
* `exists_derivation_of_level` — every level of what a tree means has a tree of its own.
* `parsed_of_same_words` — parsing looks at nothing but the words of a text.
* `source_reconstructs_pattern` — **the source of a level is parsed to the level**, but for its
  modifiers, and with their words in front to the level itself.
-/

namespace DataShape

namespace StringPattern

/-- The levels of a string pattern from the outermost one on, each with what is inside it. -/
def levels : StringPattern → List StringPattern
  | .leaf h => [.leaf h]
  | .nest h p => .nest h p :: p.levels

/-- A string pattern without the modifiers of its outermost level. -/
def unmodified : StringPattern → StringPattern
  | .leaf h => .leaf { h with isOptional := false, isNullable := false }
  | .nest h p => .nest { h with isOptional := false, isNullable := false } p

/-- The source of a string pattern, after the words of the modifiers that it has. -/
def spelled (p : StringPattern) : String :=
  (if p.head.isOptional then optionalWord ++ " " else "") ++
    ((if p.head.isNullable then nullableWord ++ " " else "") ++ p.head.source)

end StringPattern

/-- The words of the modifiers that a level has, each once. -/
def PatternHead.modifierWords (h : PatternHead) : List String :=
  (if h.isOptional then [optionalWord] else []) ++ (if h.isNullable then [nullableWord] else [])

theorem areModifiers_modifierWords (h : PatternHead) : AreModifiers h.modifierWords := by
  intro w hw
  rw [PatternHead.modifierWords, List.mem_append] at hw
  rcases hw with hw | hw
  · split at hw <;> simp_all [IsModifier]
  · split at hw <;> simp_all [IsModifier]

theorem optionalWord_mem_modifierWords (h : PatternHead) :
    optionalWord ∈ h.modifierWords ↔ h.isOptional = true := by
  have hne : optionalWord ≠ nullableWord := by decide
  cases ho : h.isOptional <;> cases hn : h.isNullable <;>
    simp [PatternHead.modifierWords, ho, hn, hne]

theorem nullableWord_mem_modifierWords (h : PatternHead) :
    nullableWord ∈ h.modifierWords ↔ h.isNullable = true := by
  have hne : nullableWord ≠ optionalWord := by decide
  cases ho : h.isOptional <;> cases hn : h.isNullable <;>
    simp [PatternHead.modifierWords, ho, hn, hne]

/-! ## Derivations with other modifiers -/

namespace Derivation

variable {T : TypeTable} {ms : List String} {d : Derivation}

/-- The tree with other modifiers at its outermost level. -/
def withModifiers (ms : List String) : Derivation → Derivation
  | last _ t => last ms t
  | nest _ t d => nest ms t d

theorem IsValid.withModifiers (hd : d.IsValid T) (hms : AreModifiers ms) :
    (d.withModifiers ms).IsValid T := by
  cases hd with
  | last _ hk ht => exact .last hms hk ht
  | nest _ hk hn hd => exact .nest hms hk hn hd

theorem words_withModifiers (ms : List String) (d : Derivation) :
    (d.withModifiers ms).words = ms ++ (d.withModifiers []).words := by
  cases d <;> rfl

/-- The source of a level is made of its words without the modifiers. -/
theorem source_pattern (d : Derivation) :
    d.pattern.head.source = unwords (d.withModifiers []).words := by
  cases d <;> rfl

theorem pattern_unmodified (d : Derivation) :
    (d.withModifiers []).pattern = d.pattern.unmodified := by
  cases d <;> rfl

theorem head_modifierWords (ms : List String) (t : String) (ws : List String) :
    head (head ms t ws).modifierWords t ws = head ms t ws := by
  simp only [head, optionalWord_mem_modifierWords, nullableWord_mem_modifierWords,
    decide_eq_true_eq]

/-- It makes no difference in which order, and how often, a level says its modifiers. -/
theorem pattern_restored (d : Derivation) :
    (d.withModifiers d.pattern.head.modifierWords).pattern = d.pattern := by
  cases d with
  | last ms t => exact congrArg StringPattern.leaf (head_modifierWords ms t [t])
  | nest ms t d =>
    exact congrArg (StringPattern.nest · d.pattern) (head_modifierWords ms t (t :: d.words))

/-- Every level of what a tree means has a tree of its own, with some of the words. -/
theorem exists_derivation_of_level (hd : d.IsValid T) {q : StringPattern}
    (hq : q ∈ d.pattern.levels) : ∃ e : Derivation, e.IsValid T ∧ e.words ⊆ d.words ∧
      e.pattern = q := by
  induction hd with
  | last hms hk ht =>
    rw [pattern, StringPattern.levels, List.mem_singleton] at hq
    exact ⟨_, .last hms hk ht, List.Subset.refl _, hq.symm⟩
  | nest hms hk hn hd ih =>
    rw [pattern, StringPattern.levels, List.mem_cons] at hq
    rcases hq with rfl | hq
    · exact ⟨_, .nest hms hk hn hd, List.Subset.refl _, rfl⟩
    · obtain ⟨e, he, hwords, rfl⟩ := ih hq
      refine ⟨e, he, fun w hw => ?_, rfl⟩
      rw [words]
      exact List.mem_append_right _ (List.mem_cons_of_mem _ (hwords hw))

end Derivation

namespace StringPattern

variable {T : TypeTable}

/-! ## Sources read back -/

/-- The words of the text that a level gives for itself. -/
theorem words_spelled (p : StringPattern) :
    words p.spelled = p.head.modifierWords ++ words p.head.source := by
  have ho : Text.IsWord optionalWord.toList :=
    isWord_of_mem_words (s := optionalWord) (by decide +kernel)
  have hn : Text.IsWord nullableWord.toList :=
    isWord_of_mem_words (s := nullableWord) (by decide +kernel)
  have hnullable :
      words ((if p.head.isNullable then nullableWord ++ " " else "") ++ p.head.source) =
        (if p.head.isNullable then [nullableWord] else []) ++ words p.head.source := by
    cases p.head.isNullable with
    | true => exact words_append hn _
    | false => simp
  rw [spelled, PatternHead.modifierWords, List.append_assoc, ← hnullable]
  cases p.head.isOptional with
  | true => exact words_append ho _
  | false => simp

/-- What a tree with words means is parsed from its source, and from the text that it gives for
itself. -/
theorem parsed_of_source {d : Derivation} (hd : d.IsValid T)
    (hw : ∀ w ∈ d.words, Text.IsWord w.toList) :
    parsed T d.pattern.head.source = .ok d.pattern.unmodified ∧
      parsed T d.pattern.spelled = .ok d.pattern := by
  have hbare : words d.pattern.head.source = (d.withModifiers []).words := by
    rw [d.source_pattern]
    refine words_unwords fun w hmem => hw w ?_
    cases d with
    | last ms t => exact List.mem_append_right ms hmem
    | nest ms t d => exact List.mem_append_right ms hmem
  have hmodifiers := areModifiers_modifierWords d.pattern.head
  constructor
  · have hnone : AreModifiers [] := by simp [AreModifiers]
    rw [parsed_of_derives ⟨hd.withModifiers hnone, hbare.symm⟩, d.pattern_unmodified]
  · have hspelled : (d.withModifiers d.pattern.head.modifierWords).words =
        words d.pattern.spelled := by
      rw [words_spelled, hbare, Derivation.words_withModifiers]
    rw [parsed_of_derives ⟨hd.withModifiers hmodifiers, hspelled⟩, d.pattern_restored]

/-! ## Texts with the same words -/

theorem leavesGrammar_of_same_words {text text' source : String} (h : words text = words text')
    (hs : LeavesGrammar T text source) :
    LeavesGrammar T text' source ∨ (source = text ∧ LeavesGrammar T text' text') := by
  cases hs with
  | outermost hi => exact .inr ⟨rfl, .outermost (h ▸ hi)⟩
  | inner hw ho hne hws hi => exact .inl (.inner (h ▸ hw) ho hne hws hi)

/-- **Parsing looks at nothing but words.**  A text is only looked at as a whole when it is blamed
at its outermost level. -/
theorem parsed_of_same_words {text text' : String} (h : words text = words text') :
    (∃ p, parsed T text = .ok p ∧ parsed T text' = .ok p) ∨
      (∃ t, parsed T text = .error (.config ("Unknown type: " ++ t)) ∧
        parsed T text' = .error (.config ("Unknown type: " ++ t))) ∨
      ∃ source source', (source = source' ∨ (source = text ∧ source' = text')) ∧
        parsed T text = .error (.config ("Invalid pattern: " ++ source)) ∧
        parsed T text' = .error (.config ("Invalid pattern: " ++ source')) := by
  rcases parsed_cases T text with ⟨d, hd, hp⟩ | ⟨t, ht, hp⟩ | ⟨source, hs, hp⟩
  · exact .inl ⟨d.pattern, hp, parsed_of_derives ⟨hd.1, hd.2.trans h⟩⟩
  · exact .inr (.inl ⟨t, hp, parsed_of_namesUnknown (h ▸ ht)⟩)
  · rcases leavesGrammar_of_same_words h hs with hs' | ⟨rfl, hs'⟩
    · exact .inr (.inr ⟨source, source, .inl rfl, hp, parsed_of_leavesGrammar hs'⟩)
    · exact .inr (.inr ⟨source, text', .inr ⟨rfl, rfl⟩, hp, parsed_of_leavesGrammar hs'⟩)

/-- **The source of a level reconstructs the level.**  Of every text that is parsed and every level
of the pattern, the source of the level is parsed to the level without its modifiers, and with their
words in front of the source to the level itself.  Two texts with the same words are parsed to the
same pattern, or name the same unknown type, or are both invalid. -/
theorem source_reconstructs_pattern (T : TypeTable) :
    (∀ text p, parsed T text = .ok p → ∀ q ∈ p.levels,
      parsed T q.head.source = .ok q.unmodified ∧ parsed T q.spelled = .ok q) ∧
    ∀ text text', words text = words text' →
      (∃ p, parsed T text = .ok p ∧ parsed T text' = .ok p) ∨
      (∃ t, parsed T text = .error (.config ("Unknown type: " ++ t)) ∧
        parsed T text' = .error (.config ("Unknown type: " ++ t))) ∨
      ∃ source source', (source = source' ∨ (source = text ∧ source' = text')) ∧
        parsed T text = .error (.config ("Invalid pattern: " ++ source)) ∧
        parsed T text' = .error (.config ("Invalid pattern: " ++ source')) := by
  refine ⟨fun text p hp q hq => ?_, fun text text' h => parsed_of_same_words h⟩
  obtain ⟨d, ⟨hd, hwords⟩, rfl⟩ := parsed_eq_ok_iff.1 hp
  obtain ⟨e, he, hsub, rfl⟩ := d.exists_derivation_of_level hd hq
  refine parsed_of_source he fun w hw => isWord_of_mem_words (s := text) ?_
  rw [← hwords]
  exact hsub hw

/-- The inner level of a text with white space of all sorts, and a text with the same words. -/
theorem nullable_observable_reconstructed :
    let text := "optional\tarray\u2003 nullable  observable nullable string\n"
    let inner : StringPattern := .nest ⟨"observable", false, true, "observable nullable string"⟩
      (.leaf ⟨"string", false, true, "string"⟩)
    let p : StringPattern :=
      .nest ⟨"array", true, false, "array nullable observable nullable string"⟩ inner
    parsed .standard text = .ok p ∧ inner ∈ p.levels ∧
      parsed .standard inner.head.source = .ok inner.unmodified ∧
      inner.spelled = "nullable observable nullable string" ∧
      parsed .standard inner.spelled = .ok inner ∧
      words text = words "optional array nullable observable nullable string" ∧
      parsed .standard "optional array nullable observable nullable string" = .ok p := by
  intro text inner p
  have hwords : words text = words "optional array nullable observable nullable string" := by
    decide +kernel
  have hp : parsed .standard text = .ok p := by
    rw [parsed, parse, hwords]
    rfl
  have hinner : inner ∈ p.levels := List.mem_cons_of_mem _ List.mem_cons_self
  obtain ⟨hlevels, hsame⟩ := source_reconstructs_pattern .standard
  obtain ⟨hsource, hspelled⟩ := hlevels text p hp inner hinner
  refine ⟨hp, hinner, hsource, rfl, hspelled, hwords, ?_⟩
  rcases hsame _ _ hwords with ⟨q, hq, hq'⟩ | ⟨t, ht, -⟩ | ⟨s, s', -, hs, -⟩
  · cases hp.symm.trans hq
    exact hq'
  · cases hp.symm.trans ht
  · cases hp.symm.trans hs

end StringPattern

end DataShape
