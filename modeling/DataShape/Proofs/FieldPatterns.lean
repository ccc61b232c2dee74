import DataShape.Proofs.Checks
import DataShape.Proofs.Reading

/-!
# Patterns of fields

Mappings with nothing but fields, and what a dot in the key of a field means.

* `objectLevel`, `read_of_fields` — the reading of a mapping that has only fields.
* `check_fields_of_object` — an object is checked field by field.
* `checkFields_dotted` — fields under a common segment are fields of what the segment leads to.
* `verify_dotted` — they are verified like fields of one pattern under the segment.
* `dotted_fields_are_nested` — **fields `k.r` mean a field `k` with fields `r`**, but for what is
  said when there is nothing under `k`.
-/

namespace DataShape

/-! ## Mappings with nothing but fields -/

/-- What a mapping with nothing but fields asks of a value itself. -/
def objectLevel : Level := ⟨.string "object", false, false, none⟩

namespace Pattern

variable {T : TypeTable} {es : List (Value × Value)}

theorem lookup_of_fields (h : ∀ e ∈ es, ¬ Keyword.reserves e.1 = true) {key : String}
    (hkey : key ∈ Keyword.all) : Value.lookup key es = none := by
  refine Value.lookup_eq_none_iff.2 fun hmem => ?_
  obtain ⟨e, he, hk⟩ := List.mem_map.1 hmem
  refine h e he ?_
  simpa [hk, Keyword.reserves] using hkey

theorem read_of_fields {P : Value} (hP : P.entries? = some es)
    (h : ∀ e ∈ es, ¬ Keyword.reserves e.1 = true) (hk : T.knows "object" = true) :
    read T P = (fieldsOf (readEntries T es)).map (.fields objectLevel) := by
  have hnone : ∀ key ∈ Keyword.all, Value.lookup key es = none :=
    fun key hkey => lookup_of_fields h hkey
  have hty : givenType es = .string "object" := by
    rw [givenType, hnone Keyword.type (by decide)]
    rfl
  have ha : allowedOf (readEntries T es) = .ok none := by
    rw [allowedOf, entryAt_readEntries, hnone Keyword.allowedValues (by decide)]
    rfl
  have he : elementsOf (readEntries T es) = .ok none := by
    rw [elementsOf, entryAt_readEntries, hnone Keyword.elements (by decide)]
    rfl
  have hi : contentsOf (readEntries T es) = .ok none := by
    rw [contentsOf, entryAt_readEntries, hnone Keyword.contents (by decide)]
    rfl
  have hlevel : givenLevel es "object" = objectLevel := by
    rw [givenLevel, givenChoice, hnone Keyword.required (by decide),
      hnone Keyword.nullable (by decide), hnone Keyword.allowedValues (by decide)]
    rfl
  rw [read_of_entries hP]
  cases hf : fieldsOf (readEntries T es) with
  | ok fs =>
    rw [ofEntries_eq_assemble hty hk ha he hi hf, hlevel]
    rfl
  | error f =>
    have ht : T.require (typeOf (readEntries T es)) = .ok "object" := by
      rw [typeOf_readEntries, hty, TypeTable.require, if_pos hk]
    rw [ofEntries, ht, ha, he, hi, hf]
    rfl

theorem knows_object_standardWith (library : Option Library) :
    (TypeTable.standardWith library).knows "object" = true := by
  cases library <;> rfl

/-- A field is read by its value, and its key is put in front of where a defect is. -/
theorem fieldsOf_cons {k : String} (hk : IsField k) (F : Value) :
    fieldsOf (readEntries T ((.string k, F) :: es)) = (do
      let p ← (read T F).mapError (Finding.under (.field k))
      let ps ← fieldsOf (readEntries T es)
      return (k, p) :: ps) := by
  rw [readEntries, fieldsOf, if_neg (not_reserves_iff.2 hk)]

end Pattern

/-- Fields under keys that begin with the same segment. -/
def dottedFields (k : String) (fs : List (String × Pattern)) : Pattern :=
  .fields objectLevel (fs.map fun f => (k ++ "." ++ f.1, f.2))

/-- The same fields as those of one field under the segment. -/
def nestedFields (k : String) (fs : List (String × Pattern)) : Pattern :=
  .fields objectLevel [(k, .fields objectLevel fs)]

/-! ## Checking objects -/

section

variable {library : Option Library} {v : Value} {es : List (Value × Value)}

/-- The types that are kinds are told by the kind of a value. -/
theorem TypeTable.check_ofKind {name : String} {kind : Kind}
    (hname : Checker.ofName? name = some (.ofKind kind)) :
    (standardWith library).check v (.string name) =
      .require (v.kind == kind) (.notOfKind kind) := by
  have hne : name ≠ "observable" := by
    rintro rfl
    cases hname
  rw [check, checker?, find?_standardWith, if_neg hne, hname]
  rfl

/-- An array or object of the right type, and without a choice, is checked by its parts. -/
theorem Level.check_of_container {l : Level} {parts : Unit → Run} {name : String}
    (hv : v.kind.isContainer = true) (hname : Checker.ofName? name = some (.ofKind v.kind))
    (hl : l.type = .string name) (ha : l.allowed = none) :
    l.check (.standardWith library) v parts = parts () := by
  have hm : v ≠ .missing := by
    rintro rfl
    cases hv
  have hn : v ≠ .null := by
    rintro rfl
    cases hv
  rw [check_type hm hn ha, hl, TypeTable.check_ofKind hname, beq_self_eq_true]
  rfl

theorem check_fields_of_object {l : Level} (hl : l.type = .string "object")
    (ha : l.allowed = none) (hv : v.entries? = some es) (fs : List (String × Pattern)) :
    (Pattern.fields l fs).check (.standardWith library) v =
      Pattern.checkFields (.standardWith library) fs v := by
  have hkind : v.kind = .object := Value.kind_eq_object_iff.2 (by rw [hv]; rfl)
  rw [Pattern.check, Level.check_of_container (by rw [hkind]; rfl) (by rw [hkind]; rfl) hl ha]

theorem check_object_of_no_entries (hv : v.entries? = none) :
    (TypeTable.standardWith library).check v objectLevel.type =
      .mismatch (.notOfKind .object) := by
  have hkind : (v.kind == .object) = false := by
    rw [beq_eq_false_iff_ne, Ne, Value.kind_eq_object_iff, hv]
    simp
  rw [objectLevel, TypeTable.check_ofKind rfl, hkind]
  rfl

/-- What is not an object is not asked for its fields. -/
theorem check_fields_of_no_entries (hv : v.entries? = none) (fs : List (String × Pattern)) :
    (Pattern.fields objectLevel fs).check (.standardWith library) v =
      objectLevel.check (.standardWith library) v fun _ => .pass := by
  rw [Pattern.check]
  by_cases hm : v = .missing
  · rw [hm, Level.check_missing, Level.check_missing]
  by_cases hn : v = .null
  · rw [hn, Level.check_null, Level.check_null]
  rw [Level.check_type hm hn rfl, Level.check_type hm hn rfl, check_object_of_no_entries hv]
  rfl

/-- The first field stops at a value that is not an object. -/
theorem checkFields_of_no_entries {T : TypeTable} {fs : List (String × Pattern)} (hne : fs ≠ [])
    (hv : v.entries? = none) :
    Pattern.checkFields T fs v = .mismatch (.notOfKind .object) := by
  cases fs with
  | nil => exact absurd rfl hne
  | cons f fs =>
    obtain ⟨key, p⟩ := f
    have hwalk : walk (segments key) v = .error [] := by
      cases hs : segments key with
      | nil => exact absurd hs (segments_ne_nil key)
      | cons s rest => rw [walk, hv]
    rw [Pattern.checkFields, checkAt, hwalk]
    rfl

/-- Where there is something, it makes no difference whether it is first asked to be an object. -/
theorem check_fields_of_some {fs : List (String × Pattern)} (hne : fs ≠ []) (hm : v ≠ .missing)
    (hn : v ≠ .null) :
    (Pattern.fields objectLevel fs).check (.standardWith library) v =
      Pattern.checkFields (.standardWith library) fs v := by
  cases hv : v.entries? with
  | some es => exact check_fields_of_object rfl rfl hv fs
  | none =>
    rw [checkFields_of_no_entries hne hv, Pattern.check, Level.check_type hm hn rfl,
      check_object_of_no_entries hv]
    rfl

/-! ## A common first segment -/

theorem isField_dotted (k r : String) : IsField (k ++ "." ++ r) := by
  have hdot : ∀ key ∈ Keyword.all, '.' ∉ key.toList := by decide
  intro hmem
  refine hdot _ hmem ?_
  simp [String.toList_append]

variable {k : String} (hdot : '.' ∉ k.toList)

include hdot

theorem walk_dotted (r : String) (hv : v.entries? = some es) :
    walk (segments (k ++ "." ++ r)) v =
      (walk (segments r) (Value.getD k es)).mapError (.field k :: ·) := by
  rw [segments_append, segments_of_no_dot hdot, List.singleton_append, walk, hv]

theorem checkAt_dotted (r : String) (c : Value → Run) (hv : v.entries? = some es) :
    checkAt (k ++ "." ++ r) c v = (checkAt r c (Value.getD k es)).under (.field k) := by
  have hsteps : keySteps (segments (k ++ "." ++ r)) = .field k :: keySteps (segments r) := by
    rw [segments_append, segments_of_no_dot hdot]
    rfl
  rw [checkAt, checkAt, walk_dotted hdot r hv, hsteps]
  cases walk (segments r) (Value.getD k es) with
  | ok u => exact Run.within_cons _ _
  | error steps => rfl

/-- Fields under a common segment are fields of what the segment leads to. -/
theorem checkFields_dotted {T : TypeTable} (fs : List (String × Pattern))
    (hv : v.entries? = some es) :
    Pattern.checkFields T (fs.map fun f => (k ++ "." ++ f.1, f.2)) v =
      (Pattern.checkFields T fs (Value.getD k es)).under (.field k) := by
  induction fs with
  | nil => rfl
  | cons f fs ih =>
    obtain ⟨r, p⟩ := f
    rw [List.map_cons, Pattern.checkFields, Pattern.checkFields, checkAt_dotted hdot r _ hv,
      Run.under_andThen, ih]

theorem check_nested {fs : List (String × Pattern)} (hv : v.entries? = some es) :
    (nestedFields k fs).check (.standardWith library) v =
      ((Pattern.fields objectLevel fs).check (.standardWith library)
        (Value.getD k es)).under (.field k) := by
  have hwalk : walk (segments k) v = .ok (Value.getD k es) := by
    rw [segments_of_no_dot hdot, walk, hv]
    rfl
  rw [nestedFields, check_fields_of_object rfl rfl hv, Pattern.checkFields, Pattern.checkFields,
    Run.andThen_pass, checkAt, hwalk, segments_of_no_dot hdot]
  rfl

end

/-! ## Verification -/

section

variable {T : TypeTable} {k : String}

/-- Entries for fields, under keys made from theirs. -/
def fieldEntries (key : String → String) (rs : List (String × Value)) : List (Value × Value) :=
  rs.map fun r => (.string (key r.1), r.2)

theorem fieldEntries_not_reserved {key : String → String} {rs : List (String × Value)}
    (h : ∀ r ∈ rs, IsField (key r.1)) :
    ∀ e ∈ fieldEntries key rs, ¬ Keyword.reserves e.1 = true := by
  intro e he
  obtain ⟨r, hr, rfl⟩ := List.mem_map.1 he
  exact not_reserves_iff.2 (h r hr)

/-- The same values are read under dotted keys and under plain ones, and the first defect is the
same. -/
theorem fieldsOf_dotted (k : String) {rs : List (String × Value)} (hrs : ∀ r ∈ rs, IsField r.1) :
    (∃ fs, Pattern.fieldsOf (Pattern.readEntries T (fieldEntries id rs)) = .ok fs ∧
        fs.length = rs.length ∧
        Pattern.fieldsOf (Pattern.readEntries T (fieldEntries (k ++ "." ++ ·) rs)) =
          .ok (fs.map fun f => (k ++ "." ++ f.1, f.2))) ∨
      ∃ r f, Pattern.fieldsOf (Pattern.readEntries T (fieldEntries id rs)) =
          .error (Finding.under (.field r) f) ∧
        Pattern.fieldsOf (Pattern.readEntries T (fieldEntries (k ++ "." ++ ·) rs)) =
          .error (Finding.under (.field (k ++ "." ++ r)) f) := by
  induction rs with
  | nil => exact .inl ⟨[], rfl, rfl, rfl⟩
  | cons e rs ih =>
    obtain ⟨r, F⟩ := e
    obtain ⟨hr, hrs⟩ := List.forall_mem_cons.1 hrs
    simp only [fieldEntries, List.map_cons, id_eq] at ih ⊢
    rw [Pattern.fieldsOf_cons hr, Pattern.fieldsOf_cons (isField_dotted k r)]
    cases Pattern.read T F with
    | error f => exact .inr ⟨r, f, rfl, rfl⟩
    | ok p =>
      rcases ih hrs with ⟨fs, h, hlength, h'⟩ | ⟨s, f, h, h'⟩
      · rw [h, h']
        exact .inl ⟨(r, p) :: fs, rfl, congrArg (· + 1) hlength, rfl⟩
      · rw [h, h']
        exact .inr ⟨s, f, rfl, rfl⟩

variable {F N I : Value} {rs : List (String × Value)}
  (hF : F.entries? = some (fieldEntries (k ++ "." ++ ·) rs))
  (hN : N.entries? = some [(.string k, I)]) (hI : I.entries? = some (fieldEntries id rs))

include hF hN hI

/-- Dotted fields are verified like the fields of one pattern: both succeed, or both have the same
first defect, which the one finds in one step and the other in two. -/
theorem verify_dotted (hT : T.knows "object" = true) (hk : IsField k)
    (hrs : ∀ r ∈ rs, IsField r.1) :
    (∃ fs, fs.length = rs.length ∧
        verify T F = .ok (dottedFields k fs) ∧ verify T N = .ok (nestedFields k fs)) ∨
      ∃ r f, verify T F = .error (Finding.under (.field (k ++ "." ++ r)) f) ∧
        verify T N = .error (Finding.under (.field k) (Finding.under (.field r) f)) := by
  have hreadF := Pattern.read_of_fields hF
    (fieldEntries_not_reserved fun r _ => isField_dotted k r.1) hT
  have hreadI := Pattern.read_of_fields hI (fieldEntries_not_reserved hrs) hT
  have hreadN := Pattern.read_of_fields hN (by simpa using not_reserves_iff.2 hk) hT
  rw [verify, verify, hreadF, hreadN, Pattern.fieldsOf_cons hk, hreadI]
  rcases fieldsOf_dotted k hrs with ⟨fs, h, hlength, h'⟩ | ⟨r, f, h, h'⟩
  · rw [h, h']
    exact .inl ⟨fs, hlength, rfl, rfl⟩
  · rw [h, h']
    exact .inr ⟨r, f, rfl, rfl⟩

end

/-! ## Dotted fields -/

/-- Two steps to a field are written like one. -/
theorem problem_under_dotted (name k r : String) (f : Finding) :
    (Finding.under (.field (k ++ "." ++ r)) f).problem name =
      (Finding.under (.field k) (Finding.under (.field r) f)).problem name := by
  have hunder : ∀ name s (g : Finding),
      (Finding.under s g).problem name = g.problem (name ++ s.text) :=
    fun name s g => Failure.problem_under name s (.defect g)
  rw [hunder, hunder, hunder]
  simp only [Step.text, String.append_assoc]

/-- What is reported against the entry under a key: the path to it, and what is wrong. -/
def againstEntry (n k text : String) : Problem :=
  .reported ⟨.pattern, n ++ "." ++ k ++ text, some (n ++ "." ++ k)⟩

theorem outcome_mismatch_under {n : String} (k text : String) {m : Mismatch} (hn : n ≠ "")
    (h : m.around = ("", text)) :
    ((Run.mismatch m).under (.field k)).outcome (some n) = .error (againstEntry n k text) := by
  have hpath : n ++ (Step.field k).text = n ++ "." ++ k := String.append_assoc.symm
  rw [Run.outcome_under hn, hpath]
  show Except.error (Failure.problem (labelOf (some (n ++ "." ++ k))) (.mismatch m [])) = _
  rw [labelOf_some (hpath ▸ append_ne_empty hn _), Failure.problem, stepsText, String.append_empty,
    Mismatch.message, h, String.empty_append, againstEntry]

/-- How the check of a value `v` named `n` may end under fields `k.r` and under a field `k` with
fields `r`: alike, unless `v` is an object with nothing under `k` or null. -/
structure MeanTheSame (n k : String) (v : Value) (dotted nested : Except Problem Unit) : Prop where
  accepts_iff : dotted = .ok () ↔ nested = .ok ()
  same : (∀ es, v.entries? = some es → Value.getD k es ≠ .missing ∧ Value.getD k es ≠ .null) →
    dotted = nested
  /-- The dotted fields miss an object. -/
  dotted_of_none : ∀ es, v.entries? = some es →
    Value.getD k es = .missing ∨ Value.getD k es = .null →
    dotted = .error (againstEntry n k " should have object type!")
  nested_of_missing : ∀ es, v.entries? = some es → Value.getD k es = .missing →
    nested = .error (againstEntry n k " is mandatory!")
  nested_of_null : ∀ es, v.entries? = some es → Value.getD k es = .null →
    nested = .error (againstEntry n k " shouldn't be null!")

section

variable {library : Option Library} {v : Value} {es : List (Value × Value)} {k n : String}
  {fs : List (String × Pattern)} (hdot : '.' ∉ k.toList)

include hdot

/-- Fields under dotted keys and fields of one field are checked alike, unless the value is an
object with nothing under the segment. -/
theorem check_dotted (hne : fs ≠ [])
    (hv : ∀ es, v.entries? = some es → Value.getD k es ≠ .missing ∧ Value.getD k es ≠ .null) :
    (dottedFields k fs).check (.standardWith library) v =
      (nestedFields k fs).check (.standardWith library) v := by
  unfold dottedFields nestedFields
  cases he : v.entries? with
  | none => rw [check_fields_of_no_entries he, check_fields_of_no_entries he]
  | some es =>
    obtain ⟨hm, hn⟩ := hv es he
    rw [check_fields_of_object rfl rfl he, checkFields_dotted hdot fs he]
    exact (check_fields_of_some hne hm hn ▸ check_nested hdot he).symm

theorem outcome_dotted_of_none (hn : n ≠ "") (hne : fs ≠ []) (he : v.entries? = some es)
    (hu : Value.getD k es = .missing ∨ Value.getD k es = .null) :
    ((dottedFields k fs).check (.standardWith library) v).outcome (some n) =
      .error (againstEntry n k " should have object type!") := by
  have hnone : (Value.getD k es).entries? = none := by
    rcases hu with hu | hu <;> rw [hu] <;> rfl
  rw [dottedFields, check_fields_of_object rfl rfl he, checkFields_dotted hdot fs he,
    checkFields_of_no_entries hne hnone, outcome_mismatch_under k _ hn rfl]
  rfl

theorem outcome_nested_of_missing (hn : n ≠ "") (he : v.entries? = some es)
    (hu : Value.getD k es = .missing) :
    ((nestedFields k fs).check (.standardWith library) v).outcome (some n) =
      .error (againstEntry n k " is mandatory!") := by
  rw [check_nested hdot he, hu, Pattern.check, Level.check_missing]
  exact outcome_mismatch_under k _ hn rfl

theorem outcome_nested_of_null (hn : n ≠ "") (he : v.entries? = some es)
    (hu : Value.getD k es = .null) :
    ((nestedFields k fs).check (.standardWith library) v).outcome (some n) =
      .error (againstEntry n k " shouldn't be null!") := by
  rw [check_nested hdot he, hu, Pattern.check, Level.check_null]
  exact outcome_mismatch_under k _ hn rfl

theorem meanTheSame (hne : fs ≠ []) (hn : n ≠ "") (v : Value) :
    MeanTheSame n k v (((dottedFields k fs).check (.standardWith library) v).outcome (some n))
      (((nestedFields k fs).check (.standardWith library) v).outcome (some n)) where
  accepts_iff := by
    cases he : v.entries? with
    | none => rw [check_dotted hdot hne fun es h => nomatch he.symm.trans h]
    | some es =>
      by_cases hm : Value.getD k es = .missing
      · rw [outcome_dotted_of_none hdot hn hne he (.inl hm),
          outcome_nested_of_missing hdot hn he hm]
        simp
      by_cases hl : Value.getD k es = .null
      · rw [outcome_dotted_of_none hdot hn hne he (.inr hl), outcome_nested_of_null hdot hn he hl]
        simp
      rw [check_dotted hdot hne fun es' h => Option.some.inj (he.symm.trans h) ▸ ⟨hm, hl⟩]
  same h := by rw [check_dotted hdot hne h]
  dotted_of_none _ he hu := outcome_dotted_of_none hdot hn hne he hu
  nested_of_missing _ he hu := outcome_nested_of_missing hdot hn he hu
  nested_of_null _ he hu := outcome_nested_of_null hdot hn he hu

end

/-- **A dot in a key means a field of a field.**  Fields `k.r` are verified like fields `r` of one
field `k`.  With a defect, both report it for every value.  Without one, they accept the same
values, and refuse them in the same way but for objects with nothing, or null, under `k`. -/
theorem dotted_fields_are_nested (library : Option Library) (n k : String)
    (rs : List (String × Value)) (F N I : Value) (hn : n ≠ "") (hdot : '.' ∉ k.toList)
    (hk : IsField k) (hne : rs ≠ []) (hrs : ∀ r ∈ rs, IsField r.1)
    (hF : F.entries? = some (fieldEntries (k ++ "." ++ ·) rs))
    (hN : N.entries? = some [(.string k, I)]) (hI : I.entries? = some (fieldEntries id rs)) :
    (verification (.standardWith library) F).outcome (some n) =
      (verification (.standardWith library) N).outcome (some n) ∧
    ((verification (.standardWith library) F).outcome (some n) = .ok () →
      ∀ v, MeanTheSame n k v ((check (.standardWith library) v F).outcome (some n))
        ((check (.standardWith library) v N).outcome (some n))) ∧
    ∀ e, (verification (.standardWith library) F).outcome (some n) = .error e →
      ∀ v, (check (.standardWith library) v F).outcome (some n) = .error e ∧
        (check (.standardWith library) v N).outcome (some n) = .error e := by
  have hT := Pattern.knows_object_standardWith library
  rcases verify_dotted hF hN hI hT hk hrs with ⟨fs, hlength, hvF, hvN⟩ | ⟨r, f, hvF, hvN⟩
  · have hfs : fs ≠ [] := by
      rintro rfl
      exact hne (List.length_eq_zero_iff.1 hlength.symm)
    have hokF : (verification (.standardWith library) F).outcome (some n) = .ok () :=
      verification_eq_ok_iff.2 ⟨_, hvF⟩
    have hokN : (verification (.standardWith library) N).outcome (some n) = .ok () :=
      verification_eq_ok_iff.2 ⟨_, hvN⟩
    refine ⟨hokF.trans hokN.symm, fun _ v => ?_, fun e he => ?_⟩
    · rw [check_of_verify hvF, check_of_verify hvN]
      exact meanTheSame hdot hfs hn v
    · cases hokF.symm.trans he
  · have hsame := problem_under_dotted (labelOf (some n)) k r f
    refine ⟨?_, fun hok => ?_, fun e he v => ?_⟩
    · rw [verification, verification, hvF, hvN]
      exact congrArg Except.error hsame
    · rw [verification, hvF] at hok
      cases hok
    · rw [verification, hvF] at he
      rw [check, check, hvF, hvN]
      exact ⟨he, (congrArg Except.error hsame).symm.trans he⟩

/-- Fields of a user, one of which is itself under a dotted key. -/
def userFields : List (String × Value) :=
  [("tags", .string "array string"), ("name.first", .string "optional nullable string")]

theorem user_fields_are_nested :
    "cfg" ≠ "" ∧ '.' ∉ "user".toList ∧ IsField "user" ∧ userFields ≠ [] ∧
      (∀ r ∈ userFields, IsField r.1) ∧
      ∀ v, MeanTheSame "cfg" "user" v
        ((check (.standardWith (some (.ofKind 1 "ko"))) v
          (.mapping .editable 2 (fieldEntries ("user" ++ "." ++ ·) userFields))).outcome
            (some "cfg"))
        ((check (.standardWith (some (.ofKind 1 "ko"))) v
          (.mapping .readOnly 3 [(.string "user",
            .mapping .editable 4 (fieldEntries id userFields))])).outcome (some "cfg")) := by
  have hk : IsField "user" := by
    unfold IsField
    decide
  have hrs : ∀ r ∈ userFields, IsField r.1 := by
    unfold IsField
    decide
  refine ⟨by decide, by decide, hk, List.cons_ne_nil _ _, hrs, ?_⟩
  exact (dotted_fields_are_nested (some (.ofKind 1 "ko")) "cfg" "user" userFields _ _ _ (by decide)
    (by decide) hk (List.cons_ne_nil _ _) hrs rfl rfl rfl).2.1 (by decide +kernel)

end DataShape
