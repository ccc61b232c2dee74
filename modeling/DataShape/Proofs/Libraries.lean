import DataShape.Proofs.Conformance
import DataShape.Proofs.Grammar

/-!
# What a library changes

Of the default types only `observable` depends on the library.  Nothing else does: not which types
there are, not what a pattern is read as, and no test of another type.

* `check_observable`, `check_of_ne_observable` — the tests of the default types, with any library or
  none.
* `read_standardWith` — a pattern is read alike with any library or none.
* `Pattern.EveryLevel`, `Pattern.check_congr` — tables whose tests agree on all levels of a pattern
  make the same runs.
* `Value.namesObservable`, `everyLevel_of_read` — whether the type `observable` occurs in a pattern;
  `check_eq_of_not_namesObservable` — where it does not, no library changes anything.
-/

namespace DataShape

namespace TypeTable

variable {library : Option Library} {v type : Value}

theorem knows_standardWith (library : Option Library) (name : String) :
    (standardWith library).knows name = standard.knows name := by
  rw [knows, knows, find?_standardWith, find?_standard]
  by_cases h : name = "observable"
  · subst h
    rfl
  · rw [if_neg h]

theorem check_observable :
    (standardWith library).check v (.string "observable") = (Checker.observable library).run v := by
  rw [check, checker?, find?_standardWith, if_pos rfl]

/-- All other tests are the same with every library. -/
theorem check_of_ne_observable (h : type ≠ .string "observable") :
    (standardWith library).check v type = standard.check v type := by
  have hfind : (standardWith library).checker? type = standard.checker? type := by
    cases type with
    | string name =>
      have hname : name ≠ "observable" := fun he => h (congrArg Value.string he)
      rw [checker?, checker?, find?_standardWith, if_neg hname, find?_standard]
    | _ => rfl
  rw [check, check, hfind]

/-- The tests of all other types are made without the library. -/
theorem seen_check_of_ne_observable (h : type ≠ .string "observable") :
    ((standardWith library).check v type).seen = [] := by
  rw [check_of_ne_observable h, seen_check_standard]

end TypeTable

/-! ## Reading -/

section

variable {T T' : TypeTable} (h : ∀ name, T.knows name = T'.knows name)

include h

theorem StringPattern.parseWords_congr (source : String) (o n : Bool) (ws : List String) :
    parseWords T source o n ws = parseWords T' source o n ws := by
  induction ws generalizing source o n with
  | nil => rfl
  | cons w ws ih => simp only [parseWords, ih, h]

theorem TypeTable.require_congr (type : Value) : T.require type = T'.require type := by
  cases type <;> simp only [require, h]

/-- What a pattern is read as depends only on which types there are. -/
theorem Pattern.read_congr (P : Value) : read T P = read T' P := by
  induction P using Value.inductOnEntries with
  | other P he =>
    cases P with
    | string s => rw [read, read, StringPattern.parse, StringPattern.parse,
        StringPattern.parseWords_congr h]
    | mapping => cases he
    | callableMapping => cases he
    | _ => rfl
  | entries P es he ih =>
    have hes : readEntries T es = readEntries T' es := by
      clear he
      induction es with
      | nil => rfl
      | cons e es ihes =>
        obtain ⟨hP, hes⟩ := List.forall_mem_cons.1 ih
        rw [readEntries, readEntries, hP, ihes hes]
    rw [read_of_entries he, read_of_entries he, hes, ofEntries, ofEntries,
      TypeTable.require_congr h]

end

/-- A pattern is read alike with every library and with none. -/
theorem read_standardWith (library library' : Option Library) (P : Value) :
    Pattern.read (.standardWith library) P = Pattern.read (.standardWith library') P :=
  Pattern.read_congr (fun name => by
    rw [TypeTable.knows_standardWith, TypeTable.knows_standardWith]) P

theorem verification_standardWith (library library' : Option Library) (P : Value) :
    verification (.standardWith library) P = verification (.standardWith library') P := by
  rw [verification, verification, verify, verify, read_standardWith library library']

/-! ## Checks by tables that agree -/

/-- Whether all levels of a pattern have a property. -/
inductive Pattern.EveryLevel (Q : Level → Prop) : Pattern → Prop
  | leaf {l} : Q l → EveryLevel Q (.leaf l)
  | elements {l p} : Q l → EveryLevel Q p → EveryLevel Q (.elements l p)
  | contents {l p} : Q l → EveryLevel Q p → EveryLevel Q (.contents l p)
  | fields {l fs} : Q l → (∀ f ∈ fs, EveryLevel Q f.2) → EveryLevel Q (.fields l fs)

section

variable {T T' : TypeTable}

theorem Level.check_congr {l : Level} (h : ∀ v, T.check v l.type = T'.check v l.type) (v : Value)
    (parts : Unit → Run) : l.check T v parts = l.check T' v parts := by
  unfold check
  simp only [h]

theorem Pattern.checkFields_congr_tables {fs : List (String × Pattern)}
    (h : ∀ f ∈ fs, ∀ v, check T f.2 v = check T' f.2 v) (v : Value) :
    checkFields T fs v = checkFields T' fs v := by
  induction fs with
  | nil => rfl
  | cons f fs ih =>
    obtain ⟨hf, hfs⟩ := List.forall_mem_cons.1 h
    have hcheck : (fun u => check T f.2 u) = fun u => check T' f.2 u := funext hf
    rw [checkFields, checkFields, hcheck, ih hfs]

/-- Tables whose tests agree on all levels of a pattern make the same runs. -/
theorem Pattern.check_congr {p : Pattern}
    (h : p.EveryLevel fun l => ∀ v, T.check v l.type = T'.check v l.type) (v : Value) :
    p.check T v = p.check T' v := by
  induction h generalizing v with
  | leaf hl => rw [check, check, Level.check_congr hl]
  | @elements l p hl _ ih =>
    have hcheck : (fun u => check T p u) = fun u => check T' p u := funext ih
    rw [check, check, Level.check_congr hl, hcheck]
  | @contents l p hl _ ih =>
    have hcheck : (fun u => check T p u) = fun u => check T' p u := funext ih
    rw [check, check, Level.check_congr hl, hcheck]
  | fields hl _ ih => rw [check, check, Level.check_congr hl, checkFields_congr_tables ih]

end

/-! ## Patterns without observables -/

mutual

/-- Whether the type `observable` occurs in a pattern: as a word of a text, as the type that a
mapping gives, or as that of a string pattern built by hand. -/
def Value.namesObservable : Value → Bool
  | .string s => (words s).contains "observable"
  | .mapping _ _ es | .callableMapping _ es _ => anyNamesObservable es
  | .prebuilt type _ _ within _ => type.isString "observable" || within.namesObservable
  | _ => false

/-- Whether it occurs in an entry of a mapping. -/
def Value.anyNamesObservable : List (Value × Value) → Bool
  | [] => false
  | (k, P) :: rest =>
    (k.isString Keyword.type && P.isString "observable") ||
      (Keyword.isPlace k && P.namesObservable) || anyNamesObservable rest

end

section

variable {T : TypeTable} {P : Value} {p : Pattern} {es : List (Value × Value)}

theorem Pattern.EveryLevel.imp {Q R : Level → Prop} (h : ∀ l, Q l → R l) (hp : p.EveryLevel Q) :
    p.EveryLevel R := by
  induction hp with
  | leaf hl => exact .leaf (h _ hl)
  | elements hl _ ih => exact .elements (h _ hl) ih
  | contents hl _ ih => exact .contents (h _ hl) ih
  | fields hl _ ih => exact .fields (h _ hl) ih

theorem Value.anyNamesObservable_eq_false (h : anyNamesObservable es = false) {k E : Value}
    (hmem : (k, E) ∈ es) :
    (k = .string Keyword.type → E ≠ .string "observable") ∧
      (Keyword.isPlace k = true → E.namesObservable = false) := by
  induction es with
  | nil => cases hmem
  | cons e es ih =>
    obtain ⟨k', E'⟩ := e
    simp only [anyNamesObservable, Bool.or_eq_false_iff, Bool.and_eq_false_iff] at h
    obtain ⟨⟨htype, hplace⟩, hrest⟩ := h
    rcases List.mem_cons.1 hmem with he | hmem
    · cases he
      refine ⟨?_, fun hk => hplace.resolve_left (by simp [hk])⟩
      rintro rfl rfl
      simp [isString] at htype
    · exact ih hrest hmem

theorem mem_of_givenType {type : String} (h : givenType es = .string type)
    (hne : type ≠ defaultType) : (.string Keyword.type, .string type) ∈ es := by
  unfold givenType at h
  split at h
  · rename_i t ht
    split at h
    · exact Value.lookup_mem (h ▸ ht)
    · exact absurd (Value.string.inj h).symm hne
  · exact absurd (Value.string.inj h).symm hne

/-- The types of a parsed pattern are among the words of the text. -/
theorem everyLevel_ofString {d : Derivation} (hd : d.IsValid T) :
    (Pattern.ofString d.pattern).EveryLevel fun l =>
      ∃ t ∈ d.words, l.type = .string t := by
  induction hd with
  | @last ms t => exact .leaf ⟨t, by simp [Derivation.words], rfl⟩
  | @nest ms t d _ _ _ _ ih =>
    have hinner : (Pattern.ofString d.pattern).EveryLevel fun l =>
        ∃ t' ∈ (Derivation.nest ms t d).words, l.type = .string t' := by
      refine ih.imp fun l h => ?_
      obtain ⟨t', ht', hl⟩ := h
      exact ⟨t', by simp [Derivation.words, ht'], hl⟩
    rw [Derivation.pattern, Pattern.ofString]
    split
    · exact .elements ⟨t, by simp [Derivation.words], rfl⟩ hinner
    · exact .contents ⟨t, by simp [Derivation.words], rfl⟩ hinner

theorem everyLevel_of_ofPrebuilt (hn : P.namesObservable = false)
    (hp : Pattern.ofPrebuilt P = some p) :
    p.EveryLevel fun l => l.type ≠ .string "observable" := by
  induction P using Pattern.ofPrebuilt.induct generalizing p with
  | case1 type o n within s ih =>
    simp only [Value.namesObservable, Bool.or_eq_false_iff] at hn
    have htype : type ≠ .string "observable" := by
      intro he
      rw [Value.isString_iff.2 he] at hn
      cases hn.1
    simp only [Pattern.ofPrebuilt, Option.some.injEq] at hp
    subst hp
    cases hw : Pattern.ofPrebuilt within with
    | none => exact .leaf htype
    | some q =>
      have hq := ih hn.2 hw
      simp only
      split
      · exact .elements htype hq
      · exact .contents htype hq
  | case2 P hP =>
    rw [Pattern.ofPrebuilt] at hp
    · cases hp
    · exact hP

/-- Where the type `observable` does not occur in a pattern, no level asks for one. -/
theorem everyLevel_of_read (P : Value) {p : Pattern} (hn : P.namesObservable = false)
    (hr : Pattern.read T P = .ok p) : p.EveryLevel fun l => l.type ≠ .string "observable" := by
  induction P using Value.inductOnEntries generalizing p with
  | other P he =>
    rcases Pattern.read_of_no_entries he hr with ⟨s, sp, rfl, hs, rfl⟩ | ⟨_, _, _, _, _, rfl, hp⟩
    · obtain ⟨d, hd, rfl⟩ := StringPattern.parse_eq_ok_iff.1 hs
      refine (everyLevel_ofString hd.1).imp fun l ⟨t, ht, hl⟩ hobs => ?_
      have hmem : "observable" ∈ words s := by
        rw [← hd.2, ← Value.string.inj (hl.symm.trans hobs)]
        exact ht
      simp [Value.namesObservable, hmem] at hn
    · exact everyLevel_of_ofPrebuilt hn hp
  | entries P es he ih =>
    have hes : Value.anyNamesObservable es = false := by
      cases P <;> cases he <;> exact hn
    have htype : ∀ {type}, givenType es = .string type →
        (givenLevel es type).type ≠ .string "observable" := by
      rintro type hty hobs
      cases Value.string.inj hobs
      have hmem := mem_of_givenType hty (by decide)
      exact (Value.anyNamesObservable_eq_false hes hmem).1 rfl rfl
    have hsub : ∀ {k E q}, (k, E) ∈ es → Keyword.isPlace k = true → Pattern.read T E = .ok q →
        q.EveryLevel fun l => l.type ≠ .string "observable" :=
      fun hE hk hq => ih _ hE ((Value.anyNamesObservable_eq_false hes hE).2 hk) hq
    cases Pattern.readsAs_of_read he hr with
    | object hty _ hfs =>
      refine .fields (htype hty) fun f hf => ?_
      obtain ⟨F, hF, hfield, hq⟩ := (Pattern.fieldsOf_spec hfs).2 f.1 f.2 hf
      exact hsub hF (isPlace_of_isField hfield) hq
    | array hty _ hE hq => exact .elements (htype hty) (hsub (Value.lookup_mem hE) rfl hq)
    | observable hty _ hE _ hq => exact .contents (htype hty) (hsub (Value.lookup_mem hE) rfl hq)
    | leaf hty => exact .leaf (htype hty)

end

/-- **Where the type `observable` does not occur, no library changes anything.** -/
theorem check_eq_of_not_namesObservable (library library' : Option Library) {P : Value}
    (hn : P.namesObservable = false) (v : Value) :
    check (.standardWith library) v P = check (.standardWith library') v P := by
  have hread : verify (.standardWith library) P = verify (.standardWith library') P :=
    read_standardWith library library' P
  cases hP : verify (.standardWith library') P with
  | error f => rw [check_of_verify_error (hread.trans hP), check_of_verify_error hP]
  | ok p =>
    rw [check_of_verify (hread.trans hP), check_of_verify hP]
    refine p.check_congr ?_ v
    refine (everyLevel_of_read P hn hP).imp fun l hl v => ?_
    rw [TypeTable.check_of_ne_observable hl, TypeTable.check_of_ne_observable hl]

end DataShape
