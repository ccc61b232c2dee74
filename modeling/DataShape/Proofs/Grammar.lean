import DataShape.Proofs.Reading

/-!
# The grammar of string patterns

The words of a string pattern follow the grammar `G ::= M* T | M* N G`: modifiers `M`, a known type
`T`, or a known type `N` that has contents and the words of these contents.

* `IsModifier`, `AreModifiers` — the words of `M` and of `M*`.
* `Derivation` — the trees of the grammar; `Derivation.words` are their leaves and
  `Derivation.pattern` is what they mean.
* `NamesUnknown`, `LeavesGrammar` — the two ways in which words are no pattern.
* `Derivation.eq_of_words_eq` — words have at most one derivation.
* `derivable_or_not` — words are derivable, name an unknown type, or leave the grammar.
* `StringPattern.parsed` — what a caller gets from parsing.
* `parse_follows_grammar` — **a text is parsed iff it has a derivation**, and what it is parsed to
  and each error are those of the grammar.
-/

namespace DataShape

/-! ## Words and levels -/

/-- The words that modify a level. -/
def IsModifier (w : String) : Prop := w = optionalWord ∨ w = nullableWord

instance : DecidablePred IsModifier := fun w => inferInstanceAs (Decidable (w = _ ∨ w = _))

/-- Whether there are only modifiers. -/
def AreModifiers (ws : List String) : Prop := ∀ w ∈ ws, IsModifier w

instance : DecidablePred AreModifiers := fun ws =>
  inferInstanceAs (Decidable (∀ w ∈ ws, IsModifier w))

theorem not_isModifier_of_mem_nestingTypes {t : String} (h : t ∈ nestingTypes) :
    ¬ IsModifier t := by
  simp only [nestingTypes, List.mem_cons, List.not_mem_nil, or_false] at h
  rcases h with rfl | rfl <;> decide

/-- Words either are all modifiers, or have a first word that is none. -/
theorem areModifiers_or_level (ws : List String) :
    AreModifiers ws ∨ ∃ ms t rest, ws = ms ++ t :: rest ∧ AreModifiers ms ∧ ¬ IsModifier t := by
  induction ws with
  | nil => exact .inl (by simp [AreModifiers])
  | cons w ws ih =>
    by_cases hw : IsModifier w
    · rcases ih with h | ⟨ms, t, rest, rfl, hms, ht⟩
      · exact .inl (List.forall_mem_cons.2 ⟨hw, h⟩)
      · exact .inr ⟨w :: ms, t, rest, rfl, List.forall_mem_cons.2 ⟨hw, hms⟩, ht⟩
    · exact .inr ⟨[], w, ws, rfl, by simp [AreModifiers], hw⟩

/-- The first word that is no modifier can be found in one way only. -/
theorem level_unique {ms ms' rest rest' : List String} {t t' : String}
    (h : ms ++ t :: rest = ms' ++ t' :: rest') (hms : AreModifiers ms) (hms' : AreModifiers ms')
    (ht : ¬ IsModifier t) (ht' : ¬ IsModifier t') : ms = ms' ∧ t = t' ∧ rest = rest' := by
  induction ms generalizing ms' with
  | nil =>
    cases ms' with
    | nil => exact ⟨rfl, List.cons.inj h⟩
    | cons m ms' =>
      have hm : IsModifier m := hms' m List.mem_cons_self
      exact absurd ((List.cons.inj h).1 ▸ hm) ht
  | cons m ms ih =>
    have hm : IsModifier m := hms m List.mem_cons_self
    cases ms' with
    | nil => exact absurd ((List.cons.inj h).1 ▸ hm) ht'
    | cons m' ms' =>
      obtain ⟨rfl, htail⟩ := List.cons.inj h
      obtain ⟨rfl, hrest⟩ := ih htail (List.forall_mem_cons.1 hms).2 (List.forall_mem_cons.1 hms').2
      exact ⟨rfl, hrest⟩

/-! ## Derivations -/

/-- A tree of the grammar: of each level its modifiers, its type, and the tree of its contents. -/
inductive Derivation where
  /-- `M* T` -/
  | last (modifiers : List String) (type : String)
  /-- `M* N G` -/
  | nest (modifiers : List String) (type : String) (contents : Derivation)

namespace Derivation

/-- The words that a tree derives. -/
def words : Derivation → List String
  | last ms t => ms ++ [t]
  | nest ms t d => ms ++ t :: d.words

/-- Whether each word of a tree may stand where it stands. -/
inductive IsValid (T : TypeTable) : Derivation → Prop
  | last {ms t} : AreModifiers ms → T.knows t = true → ¬ IsModifier t → IsValid T (.last ms t)
  | nest {ms t d} : AreModifiers ms → T.knows t = true → t ∈ nestingTypes → IsValid T d →
      IsValid T (.nest ms t d)

/-- Whether a tree of the grammar has the given words as its leaves. -/
def Derives (T : TypeTable) (d : Derivation) (ws : List String) : Prop :=
  d.IsValid T ∧ d.words = ws

/-- A level with the given modifiers, whose words from the type on are `ws`. -/
def head (ms : List String) (t : String) (ws : List String) : PatternHead where
  type := t
  isOptional := decide (optionalWord ∈ ms)
  isNullable := decide (nullableWord ∈ ms)
  source := unwords ws

/-- The string pattern that a tree means. -/
def pattern : Derivation → StringPattern
  | last ms t => .leaf (head ms t [t])
  | nest ms t d => .nest (head ms t (t :: d.words)) d.pattern

theorem words_ne_nil (d : Derivation) : d.words ≠ [] := by
  cases d <;> simp [words]

/-- **The grammar is unambiguous.** -/
theorem eq_of_words_eq {T : TypeTable} {d d' : Derivation} (hd : d.IsValid T)
    (hd' : d'.IsValid T) (h : d.words = d'.words) : d = d' := by
  induction hd generalizing d' with
  | last hms _ ht =>
    cases hd' with
    | last hms' _ ht' =>
      obtain ⟨rfl, rfl, -⟩ := level_unique h hms hms' ht ht'
      rfl
    | @nest _ _ d' hms' _ hn' _ =>
      have hrest := (level_unique h hms hms' ht (not_isModifier_of_mem_nestingTypes hn')).2.2
      exact absurd hrest.symm d'.words_ne_nil
  | @nest _ _ d hms _ hn _ ih =>
    have ht := not_isModifier_of_mem_nestingTypes hn
    cases hd' with
    | last hms' _ ht' =>
      have hrest := (level_unique h hms hms' ht ht').2.2
      exact absurd hrest d.words_ne_nil
    | nest hms' _ hn' hd' =>
      obtain ⟨rfl, rfl, hrest⟩ :=
        level_unique h hms hms' ht (not_isModifier_of_mem_nestingTypes hn')
      rw [ih hd' hrest]

end Derivation

/-! ## Words that are no pattern -/

/-- The words of levels in a row: of each its modifiers and its type. -/
def levelWords (ls : List (List String × String)) : List String :=
  ls.flatMap fun l => l.1 ++ [l.2]

/-- Levels that all go on with contents: `(M* N)*`. -/
def Descends (T : TypeTable) (ls : List (List String × String)) : Prop :=
  ∀ l ∈ ls, AreModifiers l.1 ∧ T.knows l.2 = true ∧ l.2 ∈ nestingTypes

/-- Words that begin with `(M* N)* M* t`, where `t` is no modifier and no known type. -/
def NamesUnknown (T : TypeTable) (t : String) (ws : List String) : Prop :=
  ∃ outer ms rest, ws = levelWords outer ++ (ms ++ t :: rest) ∧ Descends T outer ∧
    AreModifiers ms ∧ ¬ IsModifier t ∧ T.knows t = false

/-- Words of a level that has no type, or that goes on after a type without contents. -/
inductive IsMisshapen (T : TypeTable) : List String → Prop
  | untyped {ms} : AreModifiers ms → IsMisshapen T ms
  | surplus {ms t rest} : AreModifiers ms → T.knows t = true → ¬ IsModifier t → t ∉ nestingTypes →
      rest ≠ [] → IsMisshapen T (ms ++ t :: rest)

/-- A text that leaves the grammar, though all its types are known up to there, and what is blamed:
the text itself at the outermost level, and the words that are left at an inner one. -/
inductive LeavesGrammar (T : TypeTable) (text : String) : String → Prop
  | outermost : IsMisshapen T (words text) → LeavesGrammar T text text
  | inner {outer ws} : words text = levelWords outer ++ ws → Descends T outer → outer ≠ [] →
      ws ≠ [] → IsMisshapen T ws → LeavesGrammar T text (unwords ws)

theorem levelWords_cons (ms : List String) (t : String) (outer : List (List String × String))
    (ws : List String) :
    levelWords ((ms, t) :: outer) ++ ws = ms ++ t :: (levelWords outer ++ ws) := by
  simp [levelWords]

theorem descends_cons {T : TypeTable} {ms : List String} {t : String}
    {outer : List (List String × String)} (hms : AreModifiers ms) (hk : T.knows t = true)
    (hn : t ∈ nestingTypes) (h : Descends T outer) : Descends T ((ms, t) :: outer) :=
  List.forall_mem_cons.2 ⟨⟨hms, hk, hn⟩, h⟩

/-- Words are derivable, or name an unknown type, or are left at a misshapen level. -/
theorem derivable_or_not (T : TypeTable) (ws : List String) :
    (∃ d : Derivation, d.Derives T ws) ∨ (∃ t, NamesUnknown T t ws) ∨
      ∃ outer inner, ws = levelWords outer ++ inner ∧ Descends T outer ∧
        (outer ≠ [] → inner ≠ []) ∧ IsMisshapen T inner := by
  have hnil : Descends T [] := by simp [Descends]
  induction hn : ws.length using Nat.strongRecOn generalizing ws with
  | _ n ih =>
    rcases areModifiers_or_level ws with hms | ⟨ms, t, rest, rfl, hms, ht⟩
    · exact .inr (.inr ⟨[], ws, rfl, hnil, by simp, .untyped hms⟩)
    cases hk : T.knows t with
    | false => exact .inr (.inl ⟨t, [], ms, rest, rfl, hnil, hms, ht, hk⟩)
    | true =>
      by_cases hrest : rest = []
      · subst hrest
        exact .inl ⟨.last ms t, .last hms hk ht, rfl⟩
      by_cases hnest : t ∈ nestingTypes
      · -- the words of the contents decide
        have hlt : rest.length < n := by
          rw [← hn]
          simp only [List.length_append, List.length_cons]
          omega
        rcases ih _ hlt rest rfl with ⟨d, hd, rfl⟩ | ⟨u, outer, ms', rest', rfl, ho, h⟩ |
            ⟨outer, inner, rfl, ho, hne, hi⟩
        · exact .inl ⟨.nest ms t d, .nest hms hk hnest hd, rfl⟩
        · exact .inr (.inl ⟨u, (ms, t) :: outer, ms', rest', (levelWords_cons ..).symm,
            descends_cons hms hk hnest ho, h⟩)
        · have hne' : inner ≠ [] := by
            by_cases ho' : outer = []
            · subst ho'
              simpa [levelWords] using hrest
            · exact hne ho'
          exact .inr (.inr ⟨(ms, t) :: outer, inner, (levelWords_cons ..).symm,
            descends_cons hms hk hnest ho, fun _ => hne', hi⟩)
      · exact .inr (.inr ⟨[], ms ++ t :: rest, rfl, hnil, by simp,
          .surplus hms hk ht hnest hrest⟩)

/-! ## Parsing -/

namespace StringPattern

variable {T : TypeTable} {source : String} {ms : List String}

/-- Modifiers are taken in. -/
theorem parseWords_modifiers (hms : AreModifiers ms) (o n : Bool) (ws : List String) :
    parseWords T source o n (ms ++ ws) =
      parseWords T source (o || decide (optionalWord ∈ ms)) (n || decide (nullableWord ∈ ms))
        ws := by
  induction ms generalizing o n with
  | nil => simp
  | cons m ms ih =>
    obtain ⟨hm, hrest⟩ := List.forall_mem_cons.1 hms
    rw [List.cons_append, parseWords]
    rcases hm with rfl | rfl
    · rw [if_pos rfl, ih hrest]
      have : optionalWord ≠ nullableWord := by decide
      simp [this.symm]
    · have : nullableWord ≠ optionalWord := by decide
      rw [if_neg this, if_pos rfl, ih hrest]
      simp [this.symm]

theorem parseWords_untyped (hms : AreModifiers ms) :
    parseWords T source false false ms = .error (.malformed source) := by
  rw [← List.append_nil ms, parseWords_modifiers hms, parseWords]

/-- A level is read by its type: it must be known, and what follows it has to be its contents. -/
theorem parseWords_level {t : String} (hms : AreModifiers ms) (ht : ¬ IsModifier t)
    (rest : List String) :
    parseWords T source false false (ms ++ t :: rest) =
      if T.knows t = false then .error (.unknownType (.string t))
      else if rest = [] then .ok (.leaf (Derivation.head ms t [t]))
      else if t ∉ nestingTypes then .error (.malformed source)
      else (parseWords T (unwords rest) false false rest).map
        (.nest (Derivation.head ms t (t :: rest))) := by
  have ht := not_or.1 ht
  rw [parseWords_modifiers hms, parseWords, if_neg ht.1, if_neg ht.2]
  cases T.knows t with
  | false => rfl
  | true =>
    by_cases hrest : rest = []
    · subst hrest
      simp [Derivation.head]
    · simp [hrest, Derivation.head]

/-- What a derivation derives is parsed to what it means. -/
theorem parseWords_words {d : Derivation} (hd : d.IsValid T) :
    parseWords T source false false d.words = .ok d.pattern := by
  induction hd generalizing source with
  | last hms hk ht =>
    rw [Derivation.words, parseWords_level hms ht, if_neg (by simp [hk]), if_pos rfl]
    rfl
  | @nest ms t d hms hk hn _ ih =>
    have ht := not_isModifier_of_mem_nestingTypes hn
    rw [Derivation.words, parseWords_level hms ht, if_neg (by simp [hk]), if_neg d.words_ne_nil,
      if_neg (by simpa using hn), ih]
    rfl

/-- A defect of the contents is one of the whole. -/
theorem parseWords_descends {outer : List (List String × String)} {ws : List String} {e : Defect}
    (ho : Descends T outer) (hne : outer ≠ []) (hws : ws ≠ [])
    (h : parseWords T (unwords ws) false false ws = .error e) :
    parseWords T source false false (levelWords outer ++ ws) = .error e := by
  induction outer generalizing source with
  | nil => exact absurd rfl hne
  | cons l outer ih =>
    obtain ⟨ms, t⟩ := l
    obtain ⟨⟨hms, hk, hn⟩, ho⟩ := List.forall_mem_cons.1 ho
    have hrest : parseWords T (unwords (levelWords outer ++ ws)) false false
        (levelWords outer ++ ws) = .error e := by
      by_cases houter : outer = []
      · subst houter
        exact h
      · exact ih ho houter
    rw [levelWords_cons, parseWords_level hms (not_isModifier_of_mem_nestingTypes hn),
      if_neg (by simp [hk]), if_neg (by simp [hws]), if_neg (by simpa using hn), hrest]
    rfl

theorem parseWords_unknown {t : String} {ws : List String} (h : NamesUnknown T t ws) :
    parseWords T source false false ws = .error (.unknownType (.string t)) := by
  obtain ⟨outer, ms, rest, rfl, ho, hms, ht, hk⟩ := h
  have hlevel : ∀ s, parseWords T s false false (ms ++ t :: rest) =
      .error (.unknownType (.string t)) := by
    intro s
    rw [parseWords_level hms ht, if_pos hk]
  by_cases hne : outer = []
  · subst hne
    exact hlevel source
  · exact parseWords_descends ho hne (by simp) (hlevel _)

theorem parseWords_misshapen {ws : List String} (h : IsMisshapen T ws) :
    parseWords T source false false ws = .error (.malformed source) := by
  cases h with
  | untyped hms => exact parseWords_untyped hms
  | surplus hms hk ht hn hrest =>
    rw [parseWords_level hms ht, if_neg (by simp [hk]), if_neg hrest, if_pos hn]

theorem parse_leavesGrammar {text source : String} (h : LeavesGrammar T text source) :
    parse T text = .error (.malformed source) := by
  unfold parse
  cases h with
  | outermost h => exact parseWords_misshapen h
  | inner hw ho hne hws h =>
    rw [hw]
    exact parseWords_descends ho hne hws (parseWords_misshapen h)

/-- Every text is derivable, names an unknown type, or leaves the grammar. -/
theorem derivable_or_faulty (T : TypeTable) (text : String) :
    (∃ d : Derivation, d.Derives T (words text)) ∨
      (∃ t, NamesUnknown T t (words text)) ∨ ∃ source, LeavesGrammar T text source := by
  rcases derivable_or_not T (words text) with h | h | ⟨outer, inner, hw, ho, hne, hi⟩
  · exact .inl h
  · exact .inr (.inl h)
  · refine .inr (.inr ?_)
    by_cases houter : outer = []
    · subst houter
      exact ⟨text, .outermost (hw ▸ hi)⟩
    · exact ⟨unwords inner, .inner hw ho houter (hne houter) hi⟩

/-! ## What a caller gets -/

/-- What comes of parsing for a caller: a pattern, or a problem without a place. -/
def parsed (T : TypeTable) (text : String) : Except Problem StringPattern :=
  (parse T text).mapError fun d => d.problem none

theorem parsed_of_derives {d : Derivation} {text : String} (h : d.Derives T (words text)) :
    parsed T text = .ok d.pattern := by
  rw [parsed, parse, ← h.2, parseWords_words h.1]
  rfl

theorem parsed_of_namesUnknown {t text : String} (h : NamesUnknown T t (words text)) :
    parsed T text = .error (.config ("Unknown type: " ++ t)) := by
  rw [parsed, parse, parseWords_unknown h]
  rfl

theorem parsed_of_leavesGrammar {text : String} (h : LeavesGrammar T text source) :
    parsed T text = .error (.config ("Invalid pattern: " ++ source)) := by
  rw [parsed, parse_leavesGrammar h]
  rfl

theorem config_inj {m m' : String} (h : Problem.config m = .config m') : m = m' := by
  injection h with h
  injection h

theorem unknown_ne_invalid (t source : String) :
    "Unknown type: " ++ t ≠ "Invalid pattern: " ++ source := by
  intro h
  have := congrArg (fun s => s.toList.head?) h
  simp at this

/-- Parsing ends in one of three ways, by what the words are. -/
theorem parsed_cases (T : TypeTable) (text : String) :
    (∃ d : Derivation, d.Derives T (words text) ∧ parsed T text = .ok d.pattern) ∨
      (∃ t, NamesUnknown T t (words text) ∧
        parsed T text = .error (.config ("Unknown type: " ++ t))) ∨
      ∃ source, LeavesGrammar T text source ∧
        parsed T text = .error (.config ("Invalid pattern: " ++ source)) := by
  rcases derivable_or_faulty T text with ⟨d, hd⟩ | ⟨t, ht⟩ | ⟨source, hs⟩
  · exact .inl ⟨d, hd, parsed_of_derives hd⟩
  · exact .inr (.inl ⟨t, ht, parsed_of_namesUnknown ht⟩)
  · exact .inr (.inr ⟨source, hs, parsed_of_leavesGrammar hs⟩)

theorem parsed_eq_ok_iff {text : String} {p : StringPattern} :
    parsed T text = .ok p ↔ ∃ d : Derivation, d.Derives T (words text) ∧ p = d.pattern := by
  constructor
  · intro hp
    rcases parsed_cases T text with ⟨d, hd, h⟩ | ⟨t, -, h⟩ | ⟨source, -, h⟩ <;>
      cases h.symm.trans hp
    exact ⟨d, hd, rfl⟩
  · rintro ⟨d, hd, rfl⟩
    exact parsed_of_derives hd

theorem parse_eq_ok_iff {text : String} {p : StringPattern} :
    parse T text = .ok p ↔ ∃ d : Derivation, d.Derives T (words text) ∧ p = d.pattern := by
  rw [← parsed_eq_ok_iff, parsed, mapError_eq_ok_iff]

theorem parsed_unknown_iff {text t : String} :
    parsed T text = .error (.config ("Unknown type: " ++ t)) ↔
      NamesUnknown T t (words text) := by
  refine ⟨fun ht => ?_, parsed_of_namesUnknown⟩
  rcases parsed_cases T text with ⟨d, -, h⟩ | ⟨u, hu, h⟩ | ⟨source, -, h⟩
  · cases h.symm.trans ht
  · have hm := config_inj (Except.error.inj (h.symm.trans ht))
    rwa [← (String.append_right_inj _).1 hm]
  · have hm := config_inj (Except.error.inj (ht.symm.trans h))
    exact absurd hm (unknown_ne_invalid t source)

theorem parsed_invalid_iff {text : String} :
    parsed T text = .error (.config ("Invalid pattern: " ++ source)) ↔
      LeavesGrammar T text source := by
  refine ⟨fun hs => ?_, parsed_of_leavesGrammar⟩
  rcases parsed_cases T text with ⟨d, -, h⟩ | ⟨t, -, h⟩ | ⟨source', hs', h⟩
  · cases h.symm.trans hs
  · have hm := config_inj (Except.error.inj (h.symm.trans hs))
    exact absurd hm (unknown_ne_invalid t source)
  · have hm := config_inj (Except.error.inj (h.symm.trans hs))
    rwa [← (String.append_right_inj _).1 hm]

/-- **A text is parsed iff it has a derivation.**  The derivation is then unique, and the text is
parsed to what it means.  Otherwise there is exactly one error: an unknown type is named iff the
words begin with known levels and modifiers before it, and in all other cases the text is blamed, or
at an inner level the words that are left. -/
theorem parse_follows_grammar (T : TypeTable) (text : String) :
    ((∃ p, parsed T text = .ok p) ↔ ∃ d : Derivation, d.Derives T (words text)) ∧
    (∀ p, parsed T text = .ok p ↔ ∃ d : Derivation, d.Derives T (words text) ∧ p = d.pattern) ∧
    (∀ d d' : Derivation, d.Derives T (words text) → d'.Derives T (words text) → d = d') ∧
    (∀ t, parsed T text = .error (.config ("Unknown type: " ++ t)) ↔
      NamesUnknown T t (words text)) ∧
    (∀ source, parsed T text = .error (.config ("Invalid pattern: " ++ source)) ↔
      LeavesGrammar T text source) ∧
    ∀ problem, parsed T text = .error problem →
      (∃ t, problem = .config ("Unknown type: " ++ t)) ∨
        ∃ source, problem = .config ("Invalid pattern: " ++ source) := by
  refine ⟨⟨?_, ?_⟩, fun p => parsed_eq_ok_iff, ?_, fun t => parsed_unknown_iff,
    fun source => parsed_invalid_iff, fun problem hp => ?_⟩
  · rintro ⟨p, hp⟩
    obtain ⟨d, hd, -⟩ := parsed_eq_ok_iff.1 hp
    exact ⟨d, hd⟩
  · rintro ⟨d, hd⟩
    exact ⟨d.pattern, parsed_of_derives hd⟩
  · intro d d' hd hd'
    exact Derivation.eq_of_words_eq hd.1 hd'.1 (hd.2.trans hd'.2.symm)
  · rcases parsed_cases T text with ⟨d, -, h⟩ | ⟨t, -, h⟩ | ⟨source, -, h⟩
    · cases h.symm.trans hp
    · exact .inl ⟨t, (Except.error.inj (h.symm.trans hp)).symm⟩
    · exact .inr ⟨source, (Except.error.inj (h.symm.trans hp)).symm⟩

/-- At an inner level the words that are left are blamed, not the text. -/
example : parsed .standard " array  nullable " =
    .error (.config "Invalid pattern: nullable") := rfl

end StringPattern

end DataShape
