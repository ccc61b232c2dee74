import DataShape.Proofs.Checks
import DataShape.Proofs.Reading

/-!
# First defects

Which patterns are well formed, and what is reported of those that are not.

* `HasKnownType`, `HasFairChoice` — what a mapping has to say of a value itself.
* `WellFormed` — the patterns without a defect, said without an order of looking.
* `FirstDefect` — the defect that comes first: of a mapping its type, its choice, its elements, its
  contents, and then its fields in order, each with all that it holds.
* `wellFormed_or_firstDefect` — every value is well formed as a pattern or has a first defect.
* `exists_read_of_wellFormed`, `read_of_firstDefect` — reading finds exactly this.
* `FirstDefect.isShowable` — the message of a defect can be written where all of the pattern can.
* `verification_reports_first_defect` — **a verification accepts the well-formed patterns and
  reports the first defect of all others**; `long_number_has_no_report` — but for a defect whose
  message cannot be written.
-/

namespace DataShape

/-! ## Well-formed patterns -/

section

variable (T : TypeTable) (es : List (Value × Value))

/-- The type of a mapping is one of the table. -/
def HasKnownType : Prop := ∃ type, givenType es = .string type ∧ T.knows type = true

/-- The values that a mapping allows, if it says anything of them, are the members of an array. -/
def HasFairChoice : Prop :=
  ∀ A, Value.lookup Keyword.allowedValues es = some A → A = .missing ∨ ∃ vs, A.members? = some vs

end

/-- The patterns without a defect.  Elements and contents have to be well formed whatever the type
is, but contents may be null; fields only where the type is that of objects. -/
inductive WellFormed (T : TypeTable) : Value → Prop
  | text {s p} : StringPattern.parse T s = .ok p → WellFormed T (.string s)
  | mapping {P es} : P.entries? = some es → HasKnownType T es → HasFairChoice es →
      (∀ E, Value.lookup Keyword.elements es = some E → WellFormed T E) →
      (∀ E, Value.lookup Keyword.contents es = some E → E ≠ .null → WellFormed T E) →
      (givenType es = .string "object" → ∀ k F, (k, F) ∈ es → Keyword.reserves k = false →
        ∃ key, k = .string key) →
      (givenType es = .string "object" → ∀ k F, (k, F) ∈ es → Keyword.reserves k = false →
        WellFormed T F) →
      WellFormed T P

section

variable (T : TypeTable) (es : List (Value × Value))

/-- The elements of a mapping are well formed, if it has any. -/
def HasSoundElements : Prop :=
  ∀ E, Value.lookup Keyword.elements es = some E → WellFormed T E

/-- The contents of a mapping are well formed, if it has any. -/
def HasSoundContents : Prop :=
  ∀ E, Value.lookup Keyword.contents es = some E → E ≠ .null → WellFormed T E

/-- All entries that are fields have strings as keys and well-formed patterns. -/
def HasSoundFields : Prop :=
  ∀ k F, (k, F) ∈ es → Keyword.reserves k = false → (∃ key, k = .string key) ∧ WellFormed T F

end

/-! ## The first defect -/

/-- The first defect of a pattern, with its place; a defect inside a text has none. -/
inductive FirstDefect (T : TypeTable) : Value → Finding → Prop
  | text {s d} : StringPattern.parse T s = .error d → FirstDefect T (.string s) (.nowhere d)
  /-- Only texts and mappings are patterns. -/
  | other {P} : P.entries? = none → (∀ s, P ≠ .string s) →
      FirstDefect T P (.here (.notAPattern P))
  | type {P es} : P.entries? = some es → ¬ HasKnownType T es →
      FirstDefect T P (.here (.unknownType (givenType es)))
  | choice {P es} : P.entries? = some es → HasKnownType T es → ¬ HasFairChoice es →
      FirstDefect T P (.here .allowedNotArray)
  | elements {P es E f} : P.entries? = some es → HasKnownType T es → HasFairChoice es →
      Value.lookup Keyword.elements es = some E → FirstDefect T E f →
      FirstDefect T P (f.under .elements)
  | contents {P es E f} : P.entries? = some es → HasKnownType T es → HasFairChoice es →
      HasSoundElements T es → Value.lookup Keyword.contents es = some E → E ≠ .null →
      FirstDefect T E f → FirstDefect T P (f.under .call)
  /-- Of the fields, those before the defect have none. -/
  | key {P es before k F after} : P.entries? = some es → HasKnownType T es → HasFairChoice es →
      HasSoundElements T es → HasSoundContents T es → givenType es = .string "object" →
      es = before ++ (k, F) :: after → HasSoundFields T before → Keyword.reserves k = false →
      (∀ key, k ≠ .string key) → FirstDefect T P (.here (.keyNotString k))
  | field {P es before key F after f} : P.entries? = some es → HasKnownType T es →
      HasFairChoice es → HasSoundElements T es → HasSoundContents T es →
      givenType es = .string "object" → es = before ++ (.string key, F) :: after →
      HasSoundFields T before → IsField key → FirstDefect T F f →
      FirstDefect T P (f.under (.field key))

section

variable {T : TypeTable} {es : List (Value × Value)}

/-- The pattern of the elements is sound, or it has a first defect. -/
theorem soundElements_or_first (h : ∀ e ∈ es, WellFormed T e.2 ∨ ∃ f, FirstDefect T e.2 f) :
    HasSoundElements T es ∨
      ∃ E f, Value.lookup Keyword.elements es = some E ∧ FirstDefect T E f := by
  cases hE : Value.lookup Keyword.elements es with
  | none => exact .inl fun E' hE' => nomatch hE.symm.trans hE'
  | some E =>
    rcases h _ (Value.lookup_mem hE) with hwell | ⟨f, hf⟩
    · exact .inl fun E' hE' => Option.some.inj (hE.symm.trans hE') ▸ hwell
    · exact .inr ⟨E, f, rfl, hf⟩

/-- So is the pattern of the contents, unless it is null. -/
theorem soundContents_or_first (h : ∀ e ∈ es, WellFormed T e.2 ∨ ∃ f, FirstDefect T e.2 f) :
    HasSoundContents T es ∨
      ∃ E f, Value.lookup Keyword.contents es = some E ∧ E ≠ .null ∧ FirstDefect T E f := by
  cases hE : Value.lookup Keyword.contents es with
  | none => exact .inl fun E' hE' => nomatch hE.symm.trans hE'
  | some E =>
    rcases h _ (Value.lookup_mem hE) with hwell | ⟨f, hf⟩
    · exact .inl fun E' hE' _ => Option.some.inj (hE.symm.trans hE') ▸ hwell
    · by_cases hn : E = .null
      · exact .inl fun E' hE' hn' => absurd (Option.some.inj (hE.symm.trans hE') ▸ hn) hn'
      · exact .inr ⟨E, f, rfl, hn, hf⟩

/-- Fields are sound, or there is a first one that is not. -/
theorem soundFields_or_first (h : ∀ e ∈ es, WellFormed T e.2 ∨ ∃ f, FirstDefect T e.2 f) :
    HasSoundFields T es ∨ ∃ before k F after, es = before ++ (k, F) :: after ∧
      HasSoundFields T before ∧ Keyword.reserves k = false ∧
      ((∀ key, k ≠ .string key) ∨ ∃ key f, k = .string key ∧ FirstDefect T F f) := by
  induction es with
  | nil => exact .inl fun k F hmem => absurd hmem List.not_mem_nil
  | cons e es ih =>
    obtain ⟨k, F⟩ := e
    obtain ⟨hF, hes⟩ := List.forall_mem_cons.1 h
    have hhead : (Keyword.reserves k = false → (∃ key, k = .string key) ∧ WellFormed T F) ∨
        Keyword.reserves k = false ∧
          ((∀ key, k ≠ .string key) ∨ ∃ key f, k = .string key ∧ FirstDefect T F f) := by
      by_cases hres : Keyword.reserves k = false
      · by_cases hk : ∃ key, k = .string key
        · rcases hF with hF | ⟨f, hf⟩
          · exact .inl fun _ => ⟨hk, hF⟩
          · obtain ⟨key, hkey⟩ := hk
            exact .inr ⟨hres, .inr ⟨key, f, hkey, hf⟩⟩
        · exact .inr ⟨hres, .inl fun key hkey => hk ⟨key, hkey⟩⟩
      · exact .inl fun h => absurd h hres
    rcases hhead with hsound | ⟨hres, hbad⟩
    · have hcons : ∀ {before}, HasSoundFields T before →
          HasSoundFields T ((k, F) :: before) := by
        intro before hbefore k' F' hmem hres
        rcases List.mem_cons.1 hmem with he | hmem
        · cases he
          exact hsound hres
        · exact hbefore k' F' hmem hres
      rcases ih hes with hes | ⟨before, k', F', after, rfl, hbefore, hres, hbad⟩
      · exact .inl (hcons hes)
      · exact .inr ⟨(k, F) :: before, k', F', after, rfl, hcons hbefore, hres, hbad⟩
    · exact .inr ⟨[], k, F, es, rfl, fun _ _ hmem => absurd hmem List.not_mem_nil, hres, hbad⟩

/-- **Every value is well formed as a pattern or has a first defect.** -/
theorem wellFormed_or_firstDefect (T : TypeTable) (P : Value) :
    WellFormed T P ∨ ∃ f, FirstDefect T P f := by
  induction P using Value.inductOnEntries with
  | other P he =>
    by_cases hs : ∃ s, P = .string s
    · obtain ⟨s, rfl⟩ := hs
      cases hp : StringPattern.parse T s with
      | ok p => exact .inl (.text hp)
      | error d => exact .inr ⟨_, .text hp⟩
    · exact .inr ⟨_, .other he fun s h => hs ⟨s, h⟩⟩
  | entries P es he ih =>
    by_cases hk : HasKnownType T es
    case neg => exact .inr ⟨_, .type he hk⟩
    by_cases hc : HasFairChoice es
    case neg => exact .inr ⟨_, .choice he hk hc⟩
    rcases soundElements_or_first ih with helements | ⟨E, f, hE, hf⟩
    case inr => exact .inr ⟨_, .elements he hk hc hE hf⟩
    rcases soundContents_or_first ih with hcontents | ⟨E, f, hE, hn, hf⟩
    case inr => exact .inr ⟨_, .contents he hk hc helements hE hn hf⟩
    by_cases ho : givenType es = .string "object"
    case neg =>
      exact .inl (.mapping he hk hc helements hcontents (fun h => absurd h ho)
        fun h => absurd h ho)
    rcases soundFields_or_first ih with hfields | ⟨before, k, F, after, hes, hbefore, hres, hbad⟩
    · exact .inl (.mapping he hk hc helements hcontents
        (fun _ k F hmem hres => (hfields k F hmem hres).1)
        fun _ k F hmem hres => (hfields k F hmem hres).2)
    · rcases hbad with hkey | ⟨key, f, rfl, hf⟩
      · exact .inr ⟨_, .key he hk hc helements hcontents ho hes hbefore hres hkey⟩
      · have hfield : IsField key := not_reserves_iff.1 (by simp [hres])
        exact .inr ⟨_, .field he hk hc helements hcontents ho hes hbefore hfield hf⟩

end

/-! ## Reading -/

namespace Pattern

variable {T : TypeTable} {es : List (Value × Value)} {P : Value} {f : Finding}

theorem allowedOf_of_fair (h : HasFairChoice es) :
    allowedOf (readEntries T es) = .ok (givenChoice es) := by
  unfold allowedOf givenChoice
  rw [entryAt_readEntries]
  cases hA : Value.lookup Keyword.allowedValues es with
  | none => rfl
  | some A =>
    rcases h A hA with rfl | ⟨vs, hvs⟩
    · rfl
    · cases A <;> simp_all [Value.members?]

theorem allowedOf_of_not_fair (h : ¬ HasFairChoice es) :
    allowedOf (readEntries T es) = .error (.here .allowedNotArray) := by
  unfold allowedOf
  rw [entryAt_readEntries]
  cases hA : Value.lookup Keyword.allowedValues es with
  | none => exact absurd (fun A hA' => nomatch hA.symm.trans hA') h
  | some A =>
    have hA' : A ≠ .missing ∧ A.members? = none := by
      refine ⟨?_, ?_⟩
      · rintro rfl
        exact h fun A' hA' => .inl (Option.some.inj (hA.symm.trans hA')).symm
      · refine Option.eq_none_iff_forall_ne_some.2 fun vs hvs => ?_
        exact h fun A' hA' => .inr ⟨vs, Option.some.inj (hA.symm.trans hA') ▸ hvs⟩
    cases A <;> simp_all [Value.members?]

theorem exists_elementsOf
    (h : ∀ E, Value.lookup Keyword.elements es = some E → ∃ q, read T E = .ok q) :
    ∃ each, elementsOf (readEntries T es) = .ok each := by
  unfold elementsOf
  rw [entryAt_readEntries]
  cases hE : Value.lookup Keyword.elements es with
  | none => exact ⟨none, rfl⟩
  | some E =>
    obtain ⟨q, hq⟩ := h E hE
    exact ⟨some q, by simp [hq, Except.map]⟩

theorem elementsOf_of_error {E : Value} (hE : Value.lookup Keyword.elements es = some E)
    (h : read T E = .error f) : elementsOf (readEntries T es) = .error (f.under .elements) := by
  unfold elementsOf
  rw [entryAt_readEntries, hE]
  simp [h, Except.map]

theorem exists_contentsOf
    (h : ∀ E, Value.lookup Keyword.contents es = some E → E ≠ .null → ∃ q, read T E = .ok q) :
    ∃ inner, contentsOf (readEntries T es) = .ok inner := by
  unfold contentsOf
  rw [entryAt_readEntries]
  cases hE : Value.lookup Keyword.contents es with
  | none => exact ⟨none, rfl⟩
  | some E =>
    by_cases hn : E = .null
    · subst hn
      exact ⟨none, rfl⟩
    · obtain ⟨q, hq⟩ := h E hE hn
      refine ⟨some q, ?_⟩
      cases E <;> simp_all [Except.map]

theorem contentsOf_of_error {E : Value} (hE : Value.lookup Keyword.contents es = some E)
    (hn : E ≠ .null) (h : read T E = .error f) :
    contentsOf (readEntries T es) = .error (f.under .call) := by
  unfold contentsOf
  rw [entryAt_readEntries, hE]
  cases E <;> simp_all [Except.map]

theorem exists_fieldsOf (h : ∀ k F, (k, F) ∈ es → Keyword.reserves k = false →
    (∃ key, k = .string key) ∧ ∃ q, read T F = .ok q) :
    ∃ fs, fieldsOf (readEntries T es) = .ok fs := by
  induction es with
  | nil => exact ⟨[], rfl⟩
  | cons e es ih =>
    obtain ⟨k, F⟩ := e
    obtain ⟨fs, hfs⟩ := ih fun k' F' hmem => h k' F' (List.mem_cons_of_mem _ hmem)
    cases hres : Keyword.reserves k with
    | true => exact ⟨fs, fieldsOf_cons_iff.2 (.inl ⟨hres, hfs⟩)⟩
    | false =>
      obtain ⟨⟨key, rfl⟩, q, hq⟩ := h k F List.mem_cons_self hres
      have hfield : IsField key := not_reserves_iff.1 (by simp [hres])
      exact ⟨(key, q) :: fs, fieldsOf_cons_iff.2 (.inr ⟨key, q, fs, rfl, hfield, hq, hfs, rfl⟩)⟩

/-- Fields in front that are read leave a defect to those behind them. -/
theorem fieldsOf_append_of_error {before after : List (Value × Value)}
    {fs : List (String × Pattern)} (hbefore : fieldsOf (readEntries T before) = .ok fs)
    (hafter : fieldsOf (readEntries T after) = .error f) :
    fieldsOf (readEntries T (before ++ after)) = .error f := by
  induction before generalizing fs with
  | nil => exact hafter
  | cons e before ih =>
    obtain ⟨k, F⟩ := e
    rcases fieldsOf_cons_iff.1 hbefore with ⟨hres, hrest⟩ | ⟨key, q, gs, rfl, hk, hq, hrest, -⟩
    · rw [List.cons_append, readEntries, fieldsOf, if_pos hres]
      exact ih hrest
    · rw [List.cons_append, readEntries, fieldsOf, if_neg (not_reserves_iff.2 hk)]
      simp [hq, ih hrest, bind, Except.bind]

theorem fieldsOf_of_key {k F : Value} (hres : Keyword.reserves k = false)
    (hk : ∀ key, k ≠ .string key) :
    fieldsOf (readEntries T ((k, F) :: es)) = .error (.here (.keyNotString k)) := by
  rw [readEntries, fieldsOf, if_neg (by simp [hres])]
  cases k with
  | string key => exact absurd rfl (hk key)
  | _ => rfl

theorem fieldsOf_of_field {key : String} {F : Value} (hk : IsField key)
    (h : read T F = .error f) :
    fieldsOf (readEntries T ((.string key, F) :: es)) = .error (f.under (.field key)) := by
  rw [readEntries, fieldsOf, if_neg (not_reserves_iff.2 hk)]
  simp [h, bind, Except.bind]

/-! What a mapping is read as, where one of its parts has a defect and those before it have none. -/

theorem ofEntries_of_unknown (h : ¬ HasKnownType T es) :
    ofEntries T (readEntries T es) = .error (.here (.unknownType (givenType es))) := by
  have ht : T.require (givenType es) = .error (.unknownType (givenType es)) := by
    unfold TypeTable.require
    split
    · rename_i name hname
      exact if_neg fun hk => h ⟨name, hname, hk⟩
    · rfl
  rw [ofEntries, typeOf_readEntries, ht]
  rfl

section

variable (hk : HasKnownType T es)

include hk

theorem require_givenType : ∃ type, givenType es = .string type ∧
    T.require (typeOf (readEntries T es)) = .ok type := by
  obtain ⟨type, hty, hknown⟩ := hk
  exact ⟨type, hty, by rw [typeOf_readEntries, hty, TypeTable.require, if_pos hknown]⟩

theorem ofEntries_of_allowedOf (h : allowedOf (readEntries T es) = .error f) :
    ofEntries T (readEntries T es) = .error f := by
  obtain ⟨type, -, ht⟩ := require_givenType hk
  rw [ofEntries, ht, h]
  rfl

variable (hc : HasFairChoice es)

include hc

theorem ofEntries_of_elementsOf (h : elementsOf (readEntries T es) = .error f) :
    ofEntries T (readEntries T es) = .error f := by
  obtain ⟨type, -, ht⟩ := require_givenType hk
  rw [ofEntries, ht, allowedOf_of_fair hc, h]
  rfl

variable {each : Option Pattern} (he : elementsOf (readEntries T es) = .ok each)

include he

theorem ofEntries_of_contentsOf (h : contentsOf (readEntries T es) = .error f) :
    ofEntries T (readEntries T es) = .error f := by
  obtain ⟨type, -, ht⟩ := require_givenType hk
  rw [ofEntries, ht, allowedOf_of_fair hc, he, h]
  rfl

variable {inner : Option Pattern} (hi : contentsOf (readEntries T es) = .ok inner)

include hi

theorem ofEntries_of_fieldsOf (ho : givenType es = .string "object")
    (h : fieldsOf (readEntries T es) = .error f) :
    ofEntries T (readEntries T es) = .error f := by
  obtain ⟨type, hty, ht⟩ := require_givenType hk
  cases Value.string.inj (hty.symm.trans ho)
  rw [ofEntries, ht, allowedOf_of_fair hc, he, hi, h]
  rfl

end

end Pattern

section

variable {T : TypeTable} {P : Value}

/-- A well-formed pattern is read. -/
theorem exists_read_of_wellFormed (h : WellFormed T P) : ∃ p, Pattern.read T P = .ok p := by
  induction h with
  | @text s p hp =>
    refine ⟨Pattern.ofString p, ?_⟩
    rw [Pattern.read, hp]
    rfl
  | @mapping P es hP hk hc _ _ hkeys _ ihelements ihcontents ihfields =>
    obtain ⟨each, he⟩ := Pattern.exists_elementsOf ihelements
    obtain ⟨inner, hi⟩ := Pattern.exists_contentsOf ihcontents
    obtain ⟨type, hty, hknown⟩ := hk
    -- fields are only asked for where the type is that of objects
    obtain ⟨fs, hf⟩ : ∃ fs, type = "object" →
        Pattern.fieldsOf (Pattern.readEntries T es) = .ok fs := by
      by_cases ho : type = "object"
      · subst ho
        obtain ⟨fs, hfs⟩ := Pattern.exists_fieldsOf fun k F hmem hres =>
          ⟨hkeys hty k F hmem hres, ihfields hty k F hmem hres⟩
        exact ⟨fs, fun _ => hfs⟩
      · exact ⟨[], fun h => absurd h ho⟩
    rw [Pattern.read_of_entries hP]
    exact ⟨_, Pattern.ofEntries_eq_ok_iff.2 ⟨type, each, inner, fs, hty, hknown,
      Pattern.allowedOf_of_fair hc, he, hi, hf, rfl⟩⟩

theorem exists_elementsOf_of_sound {es : List (Value × Value)} (h : HasSoundElements T es) :
    ∃ each, Pattern.elementsOf (Pattern.readEntries T es) = .ok each :=
  Pattern.exists_elementsOf fun E hE => exists_read_of_wellFormed (h E hE)

theorem exists_contentsOf_of_sound {es : List (Value × Value)} (h : HasSoundContents T es) :
    ∃ inner, Pattern.contentsOf (Pattern.readEntries T es) = .ok inner :=
  Pattern.exists_contentsOf fun E hE hn => exists_read_of_wellFormed (h E hE hn)

theorem exists_fieldsOf_of_sound {es : List (Value × Value)} (h : HasSoundFields T es) :
    ∃ fs, Pattern.fieldsOf (Pattern.readEntries T es) = .ok fs :=
  Pattern.exists_fieldsOf fun k F hmem hres =>
    ⟨(h k F hmem hres).1, exists_read_of_wellFormed (h k F hmem hres).2⟩

/-- **The first defect is the one that reading finds.** -/
theorem read_of_firstDefect {f : Finding} (h : FirstDefect T P f) (hw : P.isWrittenOut = true) :
    Pattern.read T P = .error f := by
  induction h with
  | @text s d hd =>
    rw [Pattern.read, hd]
    rfl
  | @other P hP hs =>
    cases P with
    | string s => exact absurd rfl (hs s)
    | prebuilt => cases hw
    | mapping | callableMapping => cases hP
    | _ => rfl
  | type hP hk => rw [Pattern.read_of_entries hP, Pattern.ofEntries_of_unknown hk]
  | choice hP hk hc =>
    rw [Pattern.read_of_entries hP]
    exact Pattern.ofEntries_of_allowedOf hk (Pattern.allowedOf_of_not_fair hc)
  | elements hP hk hc hE _ ih =>
    have hread := ih (Value.isWrittenOut_of_mem hP hw (Value.lookup_mem hE) rfl)
    rw [Pattern.read_of_entries hP]
    exact Pattern.ofEntries_of_elementsOf hk hc (Pattern.elementsOf_of_error hE hread)
  | contents hP hk hc helements hE hn _ ih =>
    have hread := ih (Value.isWrittenOut_of_mem hP hw (Value.lookup_mem hE) rfl)
    obtain ⟨each, he⟩ := exists_elementsOf_of_sound helements
    rw [Pattern.read_of_entries hP]
    exact Pattern.ofEntries_of_contentsOf hk hc he (Pattern.contentsOf_of_error hE hn hread)
  | key hP hk hc helements hcontents ho hes hbefore hres hkey =>
    obtain ⟨each, he⟩ := exists_elementsOf_of_sound helements
    obtain ⟨inner, hi⟩ := exists_contentsOf_of_sound hcontents
    obtain ⟨fs, hfs⟩ := exists_fieldsOf_of_sound hbefore
    rw [Pattern.read_of_entries hP]
    refine Pattern.ofEntries_of_fieldsOf hk hc he hi ho ?_
    rw [hes]
    exact Pattern.fieldsOf_append_of_error hfs (Pattern.fieldsOf_of_key hres hkey)
  | field hP hk hc helements hcontents ho hes hbefore hfield _ ih =>
    have hmem : (_, _) ∈ _ := hes ▸ List.mem_append_right _ List.mem_cons_self
    have hread := ih (Value.isWrittenOut_of_mem hP hw hmem (isPlace_of_isField hfield))
    obtain ⟨each, he⟩ := exists_elementsOf_of_sound helements
    obtain ⟨inner, hi⟩ := exists_contentsOf_of_sound hcontents
    obtain ⟨fs, hfs⟩ := exists_fieldsOf_of_sound hbefore
    rw [Pattern.read_of_entries hP]
    refine Pattern.ofEntries_of_fieldsOf hk hc he hi ho ?_
    rw [hes]
    exact Pattern.fieldsOf_append_of_error hfs (Pattern.fieldsOf_of_field hfield hread)

end

/-! ## Messages -/

theorem Value.isShowable_of_mem {P k E : Value} {es : List (Value × Value)}
    (he : P.entries? = some es) (hP : P.isShowable = true) (h : (k, E) ∈ es) :
    k.isShowable = true ∧ E.isShowable = true := by
  have hes : entriesAreShowable es = true := by
    cases P <;> cases he <;> exact hP
  clear he hP
  induction es with
  | nil => cases h
  | cons e es ih =>
    obtain ⟨k', E'⟩ := e
    simp only [entriesAreShowable, Bool.and_eq_true] at hes
    rcases List.mem_cons.1 h with he | h
    · cases he
      exact hes.1
    · exact ih h hes.2

/-- The defects of texts mention texts only. -/
theorem StringPattern.isShowable_of_parseWords {T : TypeTable} {source : String} {o n : Bool}
    {ws : List String} {d : Defect} (h : parseWords T source o n ws = .error d) :
    d.isShowable = true := by
  induction ws generalizing source o n with
  | nil =>
    cases h
    rfl
  | cons w rest ih =>
    rw [parseWords] at h
    split at h
    · exact ih h
    split at h
    · exact ih h
    split at h
    · cases h
      rfl
    simp only at h
    split at h
    · cases h
    split at h
    · cases h
      rfl
    · exact ih (map_eq_error_iff.1 h)

theorem isShowable_givenType {P : Value} {es : List (Value × Value)} (he : P.entries? = some es)
    (hP : P.isShowable = true) : (givenType es).isShowable = true := by
  unfold givenType
  split
  · rename_i t ht
    split
    · exact (Value.isShowable_of_mem he hP (Value.lookup_mem ht)).2
    · rfl
  · rfl

/-- The message of a first defect can be written where all of the pattern can be shown. -/
theorem FirstDefect.isShowable {T : TypeTable} {P : Value} {f : Finding} (h : FirstDefect T P f)
    (hP : P.isShowable = true) : f.defect.isShowable = true := by
  induction h with
  | text hd => exact StringPattern.isShowable_of_parseWords hd
  | other => exact hP
  | type he => exact isShowable_givenType he hP
  | choice => rfl
  | elements he _ _ hE _ ih => exact ih (Value.isShowable_of_mem he hP (Value.lookup_mem hE)).2
  | contents he _ _ _ hE _ _ ih =>
    exact ih (Value.isShowable_of_mem he hP (Value.lookup_mem hE)).2
  | @key P es before k F after he _ _ _ _ _ hes =>
    have hmem : (k, F) ∈ es := hes ▸ List.mem_append_right _ List.mem_cons_self
    exact (Value.isShowable_of_mem he hP hmem).1
  | @field P es before key F after f he _ _ _ _ _ hes _ _ _ ih =>
    have hmem : (.string key, F) ∈ es := hes ▸ List.mem_append_right _ List.mem_cons_self
    exact ih (Value.isShowable_of_mem he hP hmem).2

/-! ## Verifications -/

/-- How a verification that ends with a defect is reported. -/
theorem outcome_of_read_error {T : TypeTable} {P : Value} {f : Finding}
    (h : Pattern.read T P = .error f) (name : Option String) :
    (verification T P).outcome name = .error (f.problem (labelOf name)) := by
  rw [verification, verify, h]
  rfl

/-- **A verification accepts the well-formed patterns**, of texts, mappings and anything else but
string patterns built by hand.  All others have a first defect, and this is what is reported: its
message, and the name with the steps to where it is, or no place if it is inside a text.  Only where
the message cannot be written, because it would have to show an integer of too many digits, there is
no report. -/
theorem verification_reports_first_defect (T : TypeTable) (P : Value) (name : Option String)
    (hw : P.isWrittenOut = true) :
    ((verification T P).outcome name = .ok () ↔ WellFormed T P) ∧
    (¬ WellFormed T P → ∃ f, FirstDefect T P f) ∧
    ∀ f, FirstDefect T P f →
      (f.defect.isShowable = true → (verification T P).outcome name =
        .error (.reported ⟨.config, f.defect.message,
          f.steps.map fun steps => labelOf name ++ stepsText steps⟩)) ∧
      (f.defect.isShowable = false → (verification T P).outcome name = .error .badValue) := by
  refine ⟨⟨fun hok => ?_, fun hwell => ?_⟩, fun hill => ?_,
    fun f hf => ⟨fun hs => ?_, fun hs => ?_⟩⟩
  · -- a first defect would have been found
    rcases wellFormed_or_firstDefect T P with hwell | ⟨f, hf⟩
    · exact hwell
    · cases hok.symm.trans (outcome_of_read_error (read_of_firstDefect hf hw) name)
  · exact verification_eq_ok_iff.2 (exists_read_of_wellFormed hwell)
  · exact (wellFormed_or_firstDefect T P).resolve_left hill
  · rw [outcome_of_read_error (read_of_firstDefect hf hw), Finding.problem, Defect.problem, hs]
    rfl
  · rw [outcome_of_read_error (read_of_firstDefect hf hw), Finding.problem, Defect.problem, hs]
    rfl

/-- A pattern with four defects, one of them in a field of the elements of a field. -/
def shopPattern : Value :=
  .mapping .editable 2
    [(.string "open", .string "optional boolean"),
      (.string "items", .mapping .editable 3
        [(.string "__value", .string "nothing"),
          (.string "__elements", .mapping .editable 4
            [(.string "name.short", .string "string"),
              (.string "size", .mapping .editable 5 [(.string "__allowedValues", .integer 3)]),
              (.boolean true, .string "string")]),
          (.string "__type", .string "array")]),
      (.string "owner", .string "person")]

theorem items_have_first_defect_of_shopPattern :
    shopPattern.isWrittenOut = true ∧ ¬ WellFormed .standard shopPattern ∧
      FirstDefect .standard shopPattern
        ⟨.allowedNotArray, some [.field "items", .elements, .field "size"]⟩ ∧
      (verification .standard shopPattern).outcome (some "shop") = .error (.reported ⟨.config,
        "Invalid pattern: the __allowedValues property always has to be an array!",
        some "shop.items[].size"⟩) := by
  obtain ⟨haccepts, hfirst, hreport⟩ :=
    verification_reports_first_defect .standard shopPattern (some "shop") rfl
  have hread : Pattern.read .standard shopPattern =
      .error ⟨.allowedNotArray, some [.field "items", .elements, .field "size"]⟩ := rfl
  have hill : ¬ WellFormed .standard shopPattern := by
    rw [← haccepts, outcome_of_read_error hread]
    exact nofun
  obtain ⟨f, hf⟩ := hfirst hill
  cases hread.symm.trans (read_of_firstDefect hf rfl)
  exact ⟨rfl, hill, hf, (hreport _ hf).1 rfl⟩

/-- A pattern with an integer as its type. -/
def numberedPattern (n : Int) : Value := .mapping .editable 2 [(.string "__type", .integer n)]

theorem firstDefect_of_numberedPattern (T : TypeTable) {n : Int} (hn : n ≠ 0) :
    FirstDefect T (numberedPattern n) (.here (.unknownType (.integer n))) := by
  have htype : givenType [(.string "__type", .integer n)] = .integer n := by
    simp [givenType, Value.lookup, Keyword.type, Value.isString, Value.truthy, hn]
  rw [← htype]
  refine .type rfl ?_
  rintro ⟨type, hty, -⟩
  cases htype.symm.trans hty

/-- In hexadecimal, a one with 3600 zeros. -/
def longNumber : Int := .ofNat (Nat.pow 16 3600)

/-- A pattern that is not well formed, and whose first defect is not reported: the message would
have to show an integer of more than 4300 decimal digits. -/
theorem long_number_has_no_report :
    (numberedPattern longNumber).isWrittenOut = true ∧
      ¬ WellFormed .standard (numberedPattern longNumber) ∧
      FirstDefect .standard (numberedPattern longNumber)
        (.here (.unknownType (.integer longNumber))) ∧
      ∀ r, (verification .standard (numberedPattern longNumber)).outcome none ≠
        .error (.reported r) := by
  have hlong : Value.integerIsShowable longNumber = false := by decide +kernel
  have hn : longNumber ≠ 0 := by decide +kernel
  -- nothing else is asked of the number, so that it need not be computed again
  generalize longNumber = n at *
  have hf := firstDefect_of_numberedPattern .standard hn
  have hread := read_of_firstDefect hf rfl
  refine ⟨rfl, fun hwell => ?_, hf, fun r hr => ?_⟩
  · obtain ⟨p, hp⟩ := exists_read_of_wellFormed hwell
    cases hread.symm.trans hp
  · have hmessage : (Finding.here (.unknownType (.integer n))).defect.isShowable = false := hlong
    rw [outcome_of_read_error hread, Finding.problem, Defect.problem, hmessage] at hr
    cases hr

end DataShape
