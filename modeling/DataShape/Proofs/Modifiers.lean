import DataShape.Proofs.Grammar
import DataShape.Proofs.Spelling

/-!
# Order and repetition of modifiers

The words of a string pattern fall into levels.  Which modifiers a level has matters, but not in
which order it says them, and how often.

* `WordLevel`, `wordLevels` — words cut into levels, each a longest run of modifiers and the word
  after it.
* `SameLevels` — words whose levels have the same modifiers and the same types;
  `sameLevels_cases` goes down one level.
* `StringPattern.withoutSources`, `ofString_withoutSources` — sources mean nothing.
* `parsedAlike_of_sameLevels`, `sameLevels_of_withoutSources` — words with the same levels are
  parsed alike, and only these.
* `Rephrased` — two patterns with such texts at any places where a verification looks.
* `modifiers_count_as_sets` — **modifiers count as the set of those at their level**.
-/

namespace DataShape

/-! ## Words cut into levels -/

/-- A level of words. -/
structure WordLevel where
  modifiers : List String
  /-- The word after the modifiers; only the last level of a text may have none. -/
  type : Option String
  deriving DecidableEq, Repr

/-- Puts a modifier in front of the first level, which it starts when there is none. -/
def addModifier (m : String) : List WordLevel → List WordLevel
  | [] => [⟨[m], none⟩]
  | l :: ls => { l with modifiers := m :: l.modifiers } :: ls

/-- The levels of words: each is a longest run of modifiers with the word after it. -/
def wordLevels : List String → List WordLevel
  | [] => []
  | w :: ws => if IsModifier w then addModifier w (wordLevels ws) else ⟨[], some w⟩ :: wordLevels ws

/-- Whether two levels have the same modifiers, in any order and number, and the same type. -/
structure WordLevel.Similar (l l' : WordLevel) : Prop where
  modifiers : ∀ m, m ∈ l.modifiers ↔ m ∈ l'.modifiers
  type : l.type = l'.type

/-- Whether words have the same levels, but for the order and number of modifiers in each. -/
def SameLevels (ws ws' : List String) : Prop :=
  List.Forall₂ WordLevel.Similar (wordLevels ws) (wordLevels ws')

section

variable {ms ms' ws ws' rest rest' : List String} {t : String}

theorem wordLevels_of_modifiers (hms : AreModifiers ms) (hne : ms ≠ []) :
    wordLevels ms = [⟨ms, none⟩] := by
  induction ms with
  | nil => exact absurd rfl hne
  | cons m ms ih =>
    obtain ⟨hm, hms⟩ := List.forall_mem_cons.1 hms
    rw [wordLevels, if_pos hm]
    by_cases hnil : ms = []
    · subst hnil
      rfl
    · rw [ih hms hnil]
      rfl

theorem wordLevels_of_level (hms : AreModifiers ms) (ht : ¬ IsModifier t) (rest : List String) :
    wordLevels (ms ++ t :: rest) = ⟨ms, some t⟩ :: wordLevels rest := by
  induction ms with
  | nil => rw [List.nil_append, wordLevels, if_neg ht]
  | cons m ms ih =>
    obtain ⟨hm, hms⟩ := List.forall_mem_cons.1 hms
    rw [List.cons_append, wordLevels, if_pos hm, ih hms]
    rfl

theorem wordLevels_eq_nil_iff : wordLevels ws = [] ↔ ws = [] := by
  refine ⟨fun h => ?_, fun h => h ▸ rfl⟩
  rcases areModifiers_or_level ws with hms | ⟨ms, t, rest, rfl, hms, ht⟩
  · by_cases hne : ws = []
    · exact hne
    · rw [wordLevels_of_modifiers hms hne] at h
      cases h
  · rw [wordLevels_of_level hms ht] at h
    cases h

theorem sameLevels_nil_iff (h : SameLevels ws ws') : ws = [] ↔ ws' = [] := by
  unfold SameLevels at h
  constructor
  · rintro rfl
    cases hw : wordLevels ws' with
    | nil => exact wordLevels_eq_nil_iff.1 hw
    | cons l ls => rw [hw] at h; cases h
  · rintro rfl
    cases hw : wordLevels ws with
    | nil => exact wordLevels_eq_nil_iff.1 hw
    | cons l ls => rw [hw] at h; cases h

theorem sameLevels_of_level (hms : AreModifiers ms) (hms' : AreModifiers ms')
    (ht : ¬ IsModifier t) (hsame : ∀ m, m ∈ ms ↔ m ∈ ms') (hrest : SameLevels rest rest') :
    SameLevels (ms ++ t :: rest) (ms' ++ t :: rest') := by
  unfold SameLevels
  rw [wordLevels_of_level hms ht, wordLevels_of_level hms' ht]
  exact .cons ⟨hsame, rfl⟩ hrest

/-- No level of modifiers alone is similar to one with a type. -/
theorem not_similar_levels_of_modifiers (hms : AreModifiers ms) {l : WordLevel}
    {ls : List WordLevel} (ht : l.type ≠ none) :
    ¬ List.Forall₂ WordLevel.Similar (wordLevels ms) (l :: ls) ∧
      ¬ List.Forall₂ WordLevel.Similar (l :: ls) (wordLevels ms) := by
  by_cases hne : ms = []
  · subst hne
    exact ⟨nofun, nofun⟩
  · rw [wordLevels_of_modifiers hms hne]
    refine ⟨fun h => ?_, fun h => ?_⟩
    · cases h with
      | cons hl _ => exact ht hl.type.symm
    · cases h with
      | cons hl _ => exact ht hl.type

/-- Words with the same levels both are modifiers only, or both begin with a level of the same
type, with the same modifiers, and go on with the same levels. -/
theorem sameLevels_cases (h : SameLevels ws ws') :
    (AreModifiers ws ∧ AreModifiers ws') ∨
      ∃ ms ms' t rest rest', ws = ms ++ t :: rest ∧ ws' = ms' ++ t :: rest' ∧ AreModifiers ms ∧
        AreModifiers ms' ∧ ¬ IsModifier t ∧ (∀ m, m ∈ ms ↔ m ∈ ms') ∧ SameLevels rest rest' := by
  unfold SameLevels at h
  rcases areModifiers_or_level ws with hws | ⟨ms, t, rest, rfl, hms, ht⟩ <;>
    rcases areModifiers_or_level ws' with hws' | ⟨ms', t', rest', rfl, hms', ht'⟩
  · exact .inl ⟨hws, hws'⟩
  · rw [wordLevels_of_level hms' ht'] at h
    exact absurd h (not_similar_levels_of_modifiers hws (by simp)).1
  · rw [wordLevels_of_level hms ht] at h
    exact absurd h (not_similar_levels_of_modifiers hws' (by simp)).2
  · rw [wordLevels_of_level hms ht, wordLevels_of_level hms' ht'] at h
    cases h with
    | cons hl hrest =>
      cases hl.type
      exact .inr ⟨ms, ms', t, rest, rest', rfl, rfl, hms, hms', ht, hl.modifiers, hrest⟩

end

/-! ## Patterns without sources -/

namespace StringPattern

/-- A string pattern in which no level has a source. -/
def withoutSources : StringPattern → StringPattern
  | .leaf h => .leaf { h with source := "" }
  | .nest h p => .nest { h with source := "" } p.withoutSources

theorem ofString_withoutSources (p : StringPattern) :
    Pattern.ofString p.withoutSources = Pattern.ofString p := by
  induction p with
  | leaf h => rfl
  | nest h p ih => rw [withoutSources, Pattern.ofString, Pattern.ofString, ih]; rfl

/-- Levels with the same type and the same modifiers differ in their sources only. -/
theorem head_withoutSource {ms ms' : List String} (h : ∀ m, m ∈ ms ↔ m ∈ ms') (t : String)
    (ws ws' : List String) :
    { Derivation.head ms t ws with source := "" } =
      { Derivation.head ms' t ws' with source := "" } := by
  simp only [Derivation.head, h]

/-! ## Parsing -/

/-- Two results of parsing: patterns that differ in their sources only, the same unknown type, or
words that are no pattern. -/
inductive ParsedAlike : Except Defect StringPattern → Except Defect StringPattern → Prop
  | ok {p q} : p.withoutSources = q.withoutSources → ParsedAlike (.ok p) (.ok q)
  | unknown (t : String) :
      ParsedAlike (.error (.unknownType (.string t))) (.error (.unknownType (.string t)))
  | malformed (source source') :
      ParsedAlike (.error (.malformed source)) (.error (.malformed source'))

theorem ParsedAlike.nest {x y : Except Defect StringPattern} (hxy : ParsedAlike x y)
    {h h' : PatternHead} (hh : { h with source := "" } = { h' with source := "" }) :
    ParsedAlike (x.map (.nest h)) (y.map (.nest h')) := by
  cases hxy with
  | ok hpq =>
    refine .ok ?_
    rw [withoutSources, withoutSources, hpq, hh]
  | unknown t => exact .unknown t
  | malformed source source' => exact .malformed source source'

variable {T : TypeTable} {ws ws' : List String}

/-- **Words with the same levels are parsed alike.** -/
theorem parsedAlike_of_sameLevels (h : SameLevels ws ws') (source source' : String) :
    ParsedAlike (parseWords T source false false ws) (parseWords T source' false false ws') := by
  induction hn : ws.length using Nat.strongRecOn generalizing ws ws' source source' with
  | _ n ih =>
    rcases sameLevels_cases h with
      ⟨hws, hws'⟩ | ⟨ms, ms', t, rest, rest', rfl, rfl, hms, hms', ht, hsame, hrest⟩
    · rw [parseWords_untyped hws, parseWords_untyped hws']
      exact .malformed source source'
    rw [parseWords_level hms ht, parseWords_level hms' ht]
    by_cases hk : T.knows t = false
    · rw [if_pos hk, if_pos hk]
      exact .unknown t
    rw [if_neg hk, if_neg hk]
    by_cases hnil : rest = []
    · rw [if_pos hnil, if_pos ((sameLevels_nil_iff hrest).1 hnil)]
      exact .ok (congrArg leaf (head_withoutSource hsame t [t] [t]))
    rw [if_neg hnil, if_neg fun hnil' => hnil ((sameLevels_nil_iff hrest).2 hnil')]
    by_cases hnest : t ∉ nestingTypes
    · rw [if_pos hnest, if_pos hnest]
      exact .malformed source source'
    rw [if_neg hnest, if_neg hnest]
    -- the words of the contents have the same levels
    have hlt : rest.length < n := by
      rw [← hn]
      simp only [List.length_append, List.length_cons]
      omega
    exact (ih _ hlt hrest _ _ rfl).nest (head_withoutSource hsame t _ _)

/-- The modifiers of a level can be told from what they make of the level. -/
theorem same_modifiers_of_head {ms ms' : List String} (hms : AreModifiers ms)
    (hms' : AreModifiers ms') {t t' : String} {us us' : List String}
    (h : { Derivation.head ms t us with source := "" } =
      { Derivation.head ms' t' us' with source := "" }) :
    t = t' ∧ ∀ m, m ∈ ms ↔ m ∈ ms' := by
  simp only [Derivation.head, PatternHead.mk.injEq, and_true, decide_eq_decide] at h
  obtain ⟨htype, ho, hn⟩ := h
  refine ⟨htype, fun m => ⟨fun hm => ?_, fun hm => ?_⟩⟩
  · rcases hms m hm with rfl | rfl
    · exact ho.1 hm
    · exact hn.1 hm
  · rcases hms' m hm with rfl | rfl
    · exact ho.2 hm
    · exact hn.2 hm

/-- **Only words with the same levels mean the same**, but for the sources. -/
theorem sameLevels_of_withoutSources {d d' : Derivation} (hd : d.IsValid T) (hd' : d'.IsValid T)
    (h : d.pattern.withoutSources = d'.pattern.withoutSources) : SameLevels d.words d'.words := by
  induction hd generalizing d' with
  | last hms _ ht =>
    cases hd' with
    | last hms' _ _ =>
      obtain ⟨rfl, hsame⟩ := same_modifiers_of_head hms hms' (leaf.inj h)
      exact sameLevels_of_level hms hms' ht hsame .nil
    | nest => cases h
  | nest hms _ hn _ ih =>
    cases hd' with
    | last => cases h
    | nest hms' _ _ hd' =>
      obtain ⟨hhead, hpattern⟩ := nest.inj h
      obtain ⟨rfl, hsame⟩ := same_modifiers_of_head hms hms' hhead
      exact sameLevels_of_level hms hms' (not_isModifier_of_mem_nestingTypes hn) hsame
        (ih hd' hpattern)

end StringPattern

/-! ## Rephrased patterns -/

mutual

/-- Two patterns that are the same but for the order and number of modifiers in their texts. -/
inductive Rephrased : Value → Value → Prop
  | same (P) : Rephrased P P
  | text {s s'} : SameLevels (words s) (words s') → Rephrased (.string s) (.string s')
  | entries {P Q es es'} : P.entries? = some es → Q.entries? = some es' →
      RephrasedEntries es es' → Rephrased P Q

/-- Entries of which some are rephrased, all under keys whose values can be patterns. -/
inductive RephrasedEntries : List (Value × Value) → List (Value × Value) → Prop
  | nil : RephrasedEntries [] []
  | keep (e) {es es'} : RephrasedEntries es es' → RephrasedEntries (e :: es) (e :: es')
  | place {k P Q es es'} : Keyword.isPlace k = true → Rephrased P Q → RephrasedEntries es es' →
      RephrasedEntries ((k, P) :: es) ((k, Q) :: es')

end

section

variable {T : TypeTable}

/-- Texts with the same levels are read as the same pattern. -/
theorem readsAlike_of_sameLevels {s s' : String} (h : SameLevels (words s) (words s')) :
    ReadsAlike T (.string s) (.string s') := by
  refine ⟨by simp, fun p hp => ?_⟩
  obtain ⟨q, hq, rfl⟩ := map_eq_ok_iff.1 hp
  have hparsed := StringPattern.parsedAlike_of_sameLevels (T := T) h s s'
  have hs : StringPattern.parseWords T s false false (words s) = .ok q := mapError_eq_ok_iff.1 hq
  rw [hs] at hparsed
  generalize hs' : StringPattern.parseWords T s' false false (words s') = x at hparsed
  cases hparsed with
  | @ok _ q' hqq =>
    refine ⟨Pattern.ofString q', ?_, ?_⟩
    · rw [Pattern.read, StringPattern.parse, hs']
      rfl
    · rw [← StringPattern.ofString_withoutSources q, hqq, StringPattern.ofString_withoutSources]
      exact .refl T _

open Pattern in
/-- Rephrased patterns are read alike. -/
theorem readsAlike_of_rephrased {P Q : Value} (h : Rephrased P Q) : ReadsAlike T P Q := by
  induction h using Rephrased.rec (motive_2 := fun es es' _ =>
    List.Forall₂ (EntryAlike T) (readEntries T es) (readEntries T es')) with
  | same P => exact .refl T P
  | text h => exact readsAlike_of_sameLevels h
  | entries hP hQ _ ih => exact .of_entries hP hQ ih
  | nil => exact .nil
  | keep e _ ih => exact .cons (.refl T _) ih
  | place hk _ _ ihP ih => exact .cons (.of_readsAlike hk ihP) ih

end

/-- **Modifiers count as a set at their level.**  Texts whose words have the same levels, but for
the order and number of the modifiers in each, are parsed to patterns that differ in their sources
only, or name the same unknown type, or are both invalid.  Exchanging such texts in a verified
pattern, at any places, leaves it verified, and every value has the same run: the same end under
every name, and the same values shown to the library.  No other texts are parsed to patterns that
differ in their sources only. -/
theorem modifiers_count_as_sets (T : TypeTable) :
    (∀ s s', SameLevels (words s) (words s') →
      (∃ p q, StringPattern.parsed T s = .ok p ∧ StringPattern.parsed T s' = .ok q ∧
        p.withoutSources = q.withoutSources) ∨
      (∃ t, StringPattern.parsed T s = .error (.config ("Unknown type: " ++ t)) ∧
        StringPattern.parsed T s' = .error (.config ("Unknown type: " ++ t))) ∨
      ∃ source source',
        StringPattern.parsed T s = .error (.config ("Invalid pattern: " ++ source)) ∧
        StringPattern.parsed T s' = .error (.config ("Invalid pattern: " ++ source'))) ∧
    (∀ P Q name, Rephrased P Q → (verification T P).outcome name = .ok () →
      (verification T Q).outcome name = .ok () ∧ ∀ v, check T v Q = check T v P) ∧
    ∀ s s' p q, StringPattern.parsed T s = .ok p → StringPattern.parsed T s' = .ok q →
      p.withoutSources = q.withoutSources → SameLevels (words s) (words s') := by
  refine ⟨fun s s' h => ?_, fun P Q name h hP => ?_, fun s s' p q hp hq h => ?_⟩
  · have hparsed := StringPattern.parsedAlike_of_sameLevels (T := T) h s s'
    unfold StringPattern.parsed StringPattern.parse
    generalize StringPattern.parseWords T s false false (words s) = x at hparsed
    generalize StringPattern.parseWords T s' false false (words s') = y at hparsed
    cases hparsed with
    | ok hpq => exact .inl ⟨_, _, rfl, rfl, hpq⟩
    | unknown t => exact .inr (.inl ⟨t, rfl, rfl⟩)
    | malformed source source' => exact .inr (.inr ⟨source, source', rfl, rfl⟩)
  · obtain ⟨p, hp⟩ := verification_eq_ok_iff.1 hP
    obtain ⟨q, hq, hpq⟩ := (readsAlike_of_rephrased h).read p hp
    refine ⟨verification_eq_ok_iff.2 ⟨q, hq⟩, fun v => ?_⟩
    rw [check_of_verify hp, check_of_verify hq, hpq v]
  · obtain ⟨d, hd, rfl⟩ := StringPattern.parsed_eq_ok_iff.1 hp
    obtain ⟨d', hd', rfl⟩ := StringPattern.parsed_eq_ok_iff.1 hq
    have hsame := StringPattern.sameLevels_of_withoutSources hd.1 hd'.1 h
    rwa [hd.2, hd'.2] at hsame

/-- Two texts with the same modifiers at each level, and a pattern of tags with either of them. -/
theorem tags_checked_alike :
    let s := "nullable optional array optional string"
    let s' := "optional nullable nullable array optional optional string"
    let tags (text : String) : Value := .mapping .editable 2 [(.string "tags", .string text)]
    let post : Value := .mapping .editable 3
      [(.string "tags", .sequence .list 4 [.string "lean", .integer 4])]
    SameLevels (words s) (words s') ∧ Rephrased (tags s) (tags s') ∧
      (∃ p q, StringPattern.parsed .standard s = .ok p ∧
        StringPattern.parsed .standard s' = .ok q ∧ p ≠ q ∧ p.withoutSources = q.withoutSources) ∧
      (verification .standard (tags s)).outcome none = .ok () ∧
      (verification .standard (tags s')).outcome none = .ok () ∧
      (check .standard post (tags s')).outcome (some "post") = .error (.reported ⟨.pattern,
        "post.tags[1] should have string type!", some "post.tags[1]"⟩) ∧
      check .standard post (tags s') = check .standard post (tags s) := by
  intro s s' tags post
  have hws : words s = ["nullable", "optional"] ++ "array" :: (["optional"] ++ ["string"]) := by
    decide +kernel
  have hws' : words s' = ["optional", "nullable", "nullable"] ++
      "array" :: (["optional", "optional"] ++ ["string"]) := by
    decide +kernel
  have hinner : SameLevels (["optional"] ++ ["string"]) (["optional", "optional"] ++ ["string"]) :=
    sameLevels_of_level (by decide) (by decide) (by decide) (by simp) .nil
  have hsame : SameLevels (words s) (words s') := by
    rw [hws, hws']
    exact sameLevels_of_level (by decide) (by decide) (by decide) (by simp [or_comm]) hinner
  have hrephrased : Rephrased (tags s) (tags s') := .entries rfl rfl (.place rfl (.text hsame) .nil)
  have hverified : (verification .standard (tags s)).outcome none = .ok () := by decide +kernel
  obtain ⟨hparsed, hchecked, -⟩ := modifiers_count_as_sets .standard
  obtain ⟨hverified', hcheck⟩ := hchecked _ _ none hrephrased hverified
  refine ⟨hsame, hrephrased, ?_, hverified, hverified', by decide +kernel, hcheck post⟩
  have hp : StringPattern.parsed .standard s = .ok (.nest
      ⟨"array", true, true, "array optional string"⟩
      (.leaf ⟨"string", true, false, "string"⟩)) := by
    rw [StringPattern.parsed, StringPattern.parse, hws]
    rfl
  have hq : StringPattern.parsed .standard s' = .ok (.nest
      ⟨"array", true, true, "array optional optional string"⟩
      (.leaf ⟨"string", true, false, "string"⟩)) := by
    rw [StringPattern.parsed, StringPattern.parse, hws']
    rfl
  rcases hparsed s s' hsame with ⟨p, q, hp', hq', hpq⟩ | ⟨t, ht, -⟩ | ⟨source, source', hs, -⟩
  · cases hp.symm.trans hp'
    cases hq.symm.trans hq'
    exact ⟨_, _, hp, hq, by decide, hpq⟩
  · cases hp.symm.trans ht
  · cases hp.symm.trans hs

end DataShape
