import DataShape.Proofs.Conformance
import DataShape.Proofs.Documents
import DataShape.Proofs.FailFast

/-!
# Selecting a part and asking for it by a dotted key

A dotted key is followed in two ways: `select` gives up with an absent value where the way ends, and
a field of a pattern reports the value that ends it.

* `IsDottedPrefix`, `LeadsToObject` — the beginnings of a dotted key, and whether an object is
  there.
* `leadsTo_of_prefixes` — where all of them lead to objects, the key leads somewhere.
* `FirstBlock` — the shortest beginning that leads to no object; `exists_firstBlock`.
* `walk_of_firstBlock`, `follow_of_firstBlock` — how the two ways end there.
* `AdmitsAbsent` — the patterns that an absent value passes.
* `select_agrees_with_field` — **the two ways agree** up to there.
-/

namespace DataShape

/-! ## Dotted keys -/

/-- Whether a dotted key begins with the segments of another one, and goes on. -/
def IsDottedPrefix (q key : String) : Prop := ∃ r, key = q ++ "." ++ r

theorem IsDottedPrefix.trans {p q key : String} (hp : IsDottedPrefix p q)
    (hq : IsDottedPrefix q key) : IsDottedPrefix p key := by
  obtain ⟨r, rfl⟩ := hp
  obtain ⟨s, rfl⟩ := hq
  exact ⟨r ++ "." ++ s, by simp only [String.append_assoc]⟩

theorem IsDottedPrefix.length_lt {q key : String} (h : IsDottedPrefix q key) :
    q.length < key.length := by
  obtain ⟨r, rfl⟩ := h
  simp only [String.length_append]
  have hdot : ".".length = 1 := rfl
  omega

theorem not_isDottedPrefix {q key : String} (h : '.' ∉ key.toList) : ¬ IsDottedPrefix q key := by
  rintro ⟨r, rfl⟩
  exact h (by simp)

/-- The longest dotted prefix leaves out the last segment; the others are prefixes of it. -/
theorem IsDottedPrefix.of_last_segment {q k s : String} (hs : '.' ∉ s.toList)
    (h : IsDottedPrefix q (k ++ "." ++ s)) : q = k ∨ IsDottedPrefix q k := by
  obtain ⟨r, hr⟩ := h
  have hlist := congrArg String.toList hr
  have hdot : ".".toList = ['.'] := rfl
  simp only [String.toList_append, hdot, List.append_assoc, List.singleton_append] at hlist
  rcases List.append_eq_append_iff.1 hlist with ⟨t, hq, ht⟩ | ⟨t, hk, ht⟩
  · cases t with
    | nil => exact .inl (String.toList_inj.1 (by simpa using hq))
    | cons c t =>
      obtain ⟨-, ht⟩ := List.cons.inj ht
      exact absurd (by simp [ht]) hs
  · cases t with
    | nil => exact .inl (String.toList_inj.1 (by simpa using hk.symm))
    | cons c t =>
      obtain ⟨rfl, -⟩ := List.cons.inj ht
      refine .inr ⟨String.ofList t, String.toList_inj.1 ?_⟩
      simp [hk]

/-- A key is a single segment, or it has a last one. -/
theorem exists_last_segment (key : String) :
    '.' ∉ key.toList ∨ ∃ q s, key = q ++ "." ++ s ∧ '.' ∉ s.toList := by
  by_cases h : '.' ∈ key.toList
  case neg => exact .inl h
  have hmem : '.' ∈ key.toList.reverse := List.mem_reverse.2 h
  obtain ⟨s, q, hkey, hs⟩ := List.eq_append_cons_of_mem hmem
  refine .inr ⟨String.ofList q.reverse, String.ofList s.reverse, ?_, by simpa using hs⟩
  have hkey := congrArg List.reverse hkey
  rw [List.reverse_reverse] at hkey
  rw [← String.toList_inj, hkey]
  simp

theorem stepsText_keySteps_splitAt (cs : List Char) :
    stepsText (keySteps ((Text.splitAt '.' cs).map String.ofList)) = "." ++ String.ofList cs := by
  induction cs with
  | nil => rfl
  | cons c cs ih =>
    rw [Text.splitAt]
    split
    · rename_i hc
      subst hc
      rw [List.map_cons, keySteps, List.map_cons, stepsText]
      change "." ++ "" ++ stepsText (keySteps ((Text.splitAt '.' cs).map String.ofList)) = _
      rw [ih, ← String.toList_inj]
      simp
    · -- the first segment is longer by one character
      cases hs : Text.splitAt '.' cs with
      | nil => exact absurd hs (Text.splitAt_ne_nil '.' cs)
      | cons w ws =>
        rw [hs] at ih
        have hlist := congrArg String.toList ih
        rw [← String.toList_inj]
        simp only [List.map_cons, keySteps, stepsText, Step.text, Text.consFirst,
          String.toList_append, String.toList_ofList] at hlist ⊢
        have hdot : ".".toList = ['.'] := rfl
        simp only [hdot, List.cons_append, List.nil_append, List.cons.injEq, true_and] at hlist ⊢
        rw [hlist]

/-- The text of the steps of a dotted key is the key, after a dot. -/
theorem stepsText_keySteps (key : String) : stepsText (keySteps (segments key)) = "." ++ key := by
  rw [segments, stepsText_keySteps_splitAt, String.ofList_toList]

/-! ## Where keys lead -/

/-- Whether a dotted key leads from a value to an object, through objects only. -/
def LeadsToObject (v : Value) (q : String) : Prop :=
  ∃ u es, LeadsTo (segments q) v u ∧ u.entries? = some es

/-- The shortest dotted prefix of a key that does not lead to an object: those before it do. -/
structure FirstBlock (v : Value) (key q : String) : Prop where
  isPrefix : IsDottedPrefix q key
  blocked : ¬ LeadsToObject v q
  open_before : ∀ p, IsDottedPrefix p q → LeadsToObject v p

theorem exists_firstBlock {v : Value} {key q : String} (hq : IsDottedPrefix q key)
    (hblocked : ¬ LeadsToObject v q) : ∃ p, FirstBlock v key p := by
  induction hn : q.length using Nat.strongRecOn generalizing q with
  | _ n ih =>
    by_cases hopen : ∀ p, IsDottedPrefix p q → LeadsToObject v p
    · exact ⟨q, hq, hblocked, hopen⟩
    · -- some shorter prefix is blocked
      obtain ⟨p, hp⟩ := Classical.not_forall.1 hopen
      obtain ⟨hp, hpblocked⟩ := Classical.not_imp.1 hp
      exact ih p.length (hn ▸ hp.length_lt) (hp.trans hq) hpblocked rfl

section

variable {keys more : List String} {v u : Value} {es : List (Value × Value)} {key q : String}

theorem leadsTo_append : LeadsTo (keys ++ more) v u ↔ ∃ w, LeadsTo keys v w ∧ LeadsTo more w u := by
  induction keys generalizing v with
  | nil => simp [LeadsTo]
  | cons k keys ih =>
    simp only [List.cons_append, LeadsTo, ih]
    constructor
    · rintro ⟨es, hes, w, hw, hu⟩
      exact ⟨w, ⟨es, hes, hw⟩, hu⟩
    · rintro ⟨w, ⟨es, hes, hw⟩, hu⟩
      exact ⟨es, hes, w, hw, hu⟩

/-- A key all of whose dotted prefixes lead to objects leads somewhere itself. -/
theorem leadsTo_of_prefixes (hv : v.entries? = some es)
    (h : ∀ q, IsDottedPrefix q key → LeadsToObject v q) : ∃ u, LeadsTo (segments key) v u := by
  rcases exists_last_segment key with hdot | ⟨q, s, rfl, hdot⟩
  · rw [segments_of_no_dot hdot]
    exact ⟨_, es, hv, rfl⟩
  · obtain ⟨u, us, hu, hus⟩ := h q ⟨s, rfl⟩
    rw [segments_append, segments_of_no_dot hdot]
    exact ⟨_, leadsTo_append.2 ⟨u, hu, us, hus, rfl⟩⟩

/-- In a document both ways of following a key lead to the same place. -/
theorem follow_of_leadsTo (hv : v.isData = true) (h : LeadsTo keys v u) : follow keys v = u := by
  -- an absent entry can only be at the end of the way
  have hway : v.isData = true ∨ v = .missing := .inl hv
  clear hv
  induction keys generalizing v with
  | nil => exact h
  | cons k keys ih =>
    obtain ⟨es, hes, hu⟩ := h
    rcases hway with hv | rfl
    · rw [follow, Value.editableEntries?_of_isData hv, hes]
      refine ih hu ?_
      unfold Value.getD
      cases hw : Value.lookup k es with
      | none => exact .inr rfl
      | some w => exact .inl (Value.isData_of_mem hv hes (Value.lookup_mem hw))
    · cases hes

theorem editableEntries?_of_no_entries (h : u.entries? = none) : u.editableEntries? = none := by
  cases he : u.editableEntries? with
  | none => rfl
  | some es => cases h.symm.trans (Value.entries?_of_editableEntries? he)

/-- The value that ends the way of a blocked key, and how it ends for both ways. -/
theorem walk_of_firstBlock (hdata : v.isData = true) (hv : v.entries? = some es)
    (h : FirstBlock v key q) :
    walk (segments key) v = .error (keySteps (segments q)) ∧
      follow (segments key) v = .missing := by
  obtain ⟨r, rfl⟩ := h.isPrefix
  obtain ⟨u, hu⟩ := leadsTo_of_prefixes hv h.open_before
  have hnone : u.entries? = none := by
    cases hus : u.entries? with
    | none => rfl
    | some us => exact absurd ⟨u, us, hu, hus⟩ h.blocked
  obtain ⟨s, rest, hr⟩ := List.exists_cons_of_ne_nil (segments_ne_nil r)
  rw [segments_append, hr]
  constructor
  · rw [walk_append, walk_eq_ok_iff.2 hu]
    simp only [walk, hnone, mapError_error, List.append_nil]
    rfl
  · rw [follow_append _ _ _ (List.cons_ne_nil s rest), follow_of_leadsTo hdata hu, follow,
      editableEntries?_of_no_entries hnone]

end

/-! ## Absent values -/

/-- The patterns that an absent value passes: mappings that do not require a value, and string
patterns, spelled or built by hand, whose outermost level is optional. -/
inductive AdmitsAbsent (T : TypeTable) : Value → Prop
  | mapping {P es} : P.entries? = some es →
      Value.lookup Keyword.required es = some (.boolean false) → AdmitsAbsent T P
  | text {s p} : StringPattern.parse T s = .ok p → p.head.isOptional = true →
      AdmitsAbsent T (.string s)
  | built {type o n within s} : o.truthy = true → AdmitsAbsent T (.prebuilt type o n within s)

section

variable {T : TypeTable} {P : Value} {p : Pattern}

theorem isOptional_iff_admitsAbsent (hr : Pattern.read T P = .ok p) :
    p.level.isOptional = true ↔ AdmitsAbsent T P := by
  cases he : P.entries? with
  | some es =>
    have hlevel : p.level.isOptional = (Value.lookup Keyword.required es).any Pattern.isFalse := by
      cases Pattern.readsAs_of_read he hr <;> rfl
    rw [hlevel, Pattern.any_isFalse_iff]
    refine ⟨.mapping he, fun h => ?_⟩
    cases h with
    | mapping he' h => cases he.symm.trans he'; exact h
    | text | built => cases he
  | none =>
    rcases Pattern.read_of_no_entries he hr with ⟨s, sp, rfl, hs, rfl⟩ | ⟨type, o, n, w, s, rfl, hp⟩
    · have hlevel : (Pattern.ofString sp).level.isOptional = sp.head.isOptional := by
        cases sp with
        | leaf => rfl
        | nest =>
          unfold Pattern.ofString
          split <;> rfl
      rw [hlevel]
      refine ⟨.text hs, fun h => ?_⟩
      cases h with
      | mapping he' => cases he'
      | text hs' h => cases hs.symm.trans hs'; exact h
    · have hlevel : p.level.isOptional = o.truthy := by
        simp only [Pattern.ofPrebuilt, Option.some.injEq] at hp
        subst hp
        split
        · rfl
        · split <;> rfl
      rw [hlevel]
      refine ⟨.built, fun h => ?_⟩
      cases h with
      | mapping he' => cases he'
      | built h => exact h

theorem succeeds_check_missing_iff (hr : Pattern.read T P = .ok p) :
    (check T .missing P).succeeds = true ↔ AdmitsAbsent T P := by
  have hcheck : p.check T .missing = .require p.level.isOptional .mandatory := by
    cases p <;> rw [Pattern.check] <;> rfl
  rw [check_of_verify hr, hcheck, Run.succeeds_require, isOptional_iff_admitsAbsent hr]

end

/-! ## The two ways -/

theorem Run.outcome_within {n : String} (hn : n ≠ "") (steps : List Step) (r : Run) :
    (within steps r).outcome (some n) = r.outcome (some (n ++ stepsText steps)) := by
  induction steps generalizing n with
  | nil => rw [stepsText, String.append_empty]; rfl
  | cons s steps ih =>
    rw [within_cons, outcome_under hn, ih (append_ne_empty hn _), stepsText, String.append_assoc]

section

variable {library : Option Library} {v u P : Value} {es : List (Value × Value)} {key q n : String}

theorem verify_singleField_of_error {f : Finding} (hk : IsField key)
    (hP : Pattern.read (.standardWith library) P = .error f) (form : MappingForm) (id : Nat) :
    verify (.standardWith library) (.mapping form id [(.string key, P)]) =
      .error (f.under (.field key)) := by
  have hT := Pattern.knows_object_standardWith library
  rw [verify, Pattern.read_of_fields rfl (by simpa using not_reserves_iff.2 hk) hT,
    Pattern.fieldsOf_cons hk, hP]
  rfl

/-- A field is checked like what its key leads to, under the path to it. -/
theorem check_field_of_leadsTo (hv : v.entries? = some es) (hk : IsField key) (hn : n ≠ "")
    (hu : LeadsTo (segments key) v u) (form : MappingForm) (id : Nat) :
    (check (.standardWith library) v (.mapping form id [(.string key, P)])).outcome (some n) =
        (check (.standardWith library) u P).outcome (some (n ++ "." ++ key)) ∧
      (check (.standardWith library) v (.mapping form id [(.string key, P)])).events =
        (check (.standardWith library) u P).events := by
  cases hP : Pattern.read (.standardWith library) P with
  | ok p =>
    rw [check_singleField hv hk hP, check_of_verify hP, checkAt, walk_eq_ok_iff.2 hu]
    refine ⟨?_, Run.events_within _⟩
    simp only
    rw [Run.outcome_within hn, stepsText_keySteps, String.append_assoc]
  | error f =>
    rw [check_of_verify_error (verify_singleField_of_error hk hP form id), check_of_verify_error hP]
    refine ⟨?_, rfl⟩
    have hname : n ++ "." ++ key ≠ "" := append_ne_empty (append_ne_empty hn _) _
    simp only [Run.outcome, Run.fail, mapError_error, labelOf_some hn, labelOf_some hname]
    change Except.error ((Failure.under (.field key) (.defect f)).problem n) = _
    rw [Failure.problem_under, Step.text, String.append_assoc]

/-- A field whose way is blocked is reported at the block. -/
theorem check_field_of_walk_error (hv : v.entries? = some es) (hk : IsField key) (hn : n ≠ "")
    {p : Pattern} (hP : Pattern.read (.standardWith library) P = .ok p)
    (hwalk : walk (segments key) v = .error (keySteps (segments q))) (form : MappingForm)
    (id : Nat) :
    (check (.standardWith library) v (.mapping form id [(.string key, P)])).outcome (some n) =
      .error (.reported ⟨.pattern, n ++ "." ++ q ++ " should have object type!",
        some (n ++ "." ++ q)⟩) := by
  have hpath : labelOf (some n) ++ stepsText (keySteps (segments q)) = n ++ "." ++ q := by
    rw [labelOf_some hn, stepsText_keySteps, String.append_assoc]
  rw [check_singleField hv hk hP, checkAt, hwalk]
  simp only [Run.outcome, Run.fail, mapError_error, Failure.problem, hpath]
  rfl

end

/-- **Selecting a part and asking for it by a field agree.**  Where every dotted prefix of a key
leads to an object, a document passes a pattern with one field under the key iff the selected part
passes the pattern of the field under the path to it, with the same report otherwise and with the
same values shown and called.  Where a prefix does not, nothing is selected, so that the check
passes iff an absent value does, but the field reports the shortest such prefix.  (The prefix of a
key that begins with a dot is the empty segment.) -/
theorem select_agrees_with_field (library : Option Library) (document P : Value)
    (es : List (Value × Value)) (form : MappingForm) (id : Nat) (key n : String)
    (hdata : document.isData = true) (hes : document.entries? = some es) (hkey : key ≠ "")
    (hk : IsField key) (hn : n ≠ "") :
    let T := TypeTable.standardWith library
    let fieldCheck := check T document (.mapping form id [(.string key, P)])
    let selected := select document (some key)
    ((∀ q, IsDottedPrefix q key → LeadsToObject document q) →
      fieldCheck.outcome (some n) = (check T selected P).outcome (some (n ++ "." ++ key)) ∧
        fieldCheck.events = (check T selected P).events) ∧
    ((∃ q, IsDottedPrefix q key ∧ ¬ LeadsToObject document q) →
      (∃ q, FirstBlock document key q) ∧ selected = .missing ∧
        ((verification T P).outcome (some n) = .ok () →
          ((check T selected P).outcome (some (n ++ "." ++ key)) = .ok () ↔ AdmitsAbsent T P) ∧
            ∀ q, FirstBlock document key q → fieldCheck.outcome (some n) =
              .error (.reported ⟨.pattern, n ++ "." ++ q ++ " should have object type!",
                some (n ++ "." ++ q)⟩))) := by
  intro T fieldCheck selected
  have hselected : selected = follow (segments key) document := by
    change select document (some key) = _
    unfold select
    split
    · contradiction
    · rename_i h; exact absurd (Option.some.inj h) hkey
    · rename_i h; rw [Option.some.inj h]
  refine ⟨fun hopen => ?_, fun ⟨q, hq, hblocked⟩ => ?_⟩
  · obtain ⟨u, hu⟩ := leadsTo_of_prefixes hes hopen
    rw [hselected, follow_of_leadsTo hdata hu]
    exact check_field_of_leadsTo hes hk hn hu form id
  · obtain ⟨p, hp⟩ := exists_firstBlock hq hblocked
    have hmissing : selected = .missing :=
      hselected.trans (walk_of_firstBlock hdata hes hp).2
    refine ⟨⟨p, hp⟩, hmissing, fun hok => ⟨?_, fun q hq => ?_⟩⟩
    · obtain ⟨r, hr⟩ := verification_eq_ok_iff.1 hok
      rw [Run.outcome_eq_ok_iff, hmissing, succeeds_check_missing_iff hr]
    · obtain ⟨r, hr⟩ := verification_eq_ok_iff.1 hok
      exact check_field_of_walk_error hes hk hn hr (walk_of_firstBlock hdata hes hq).1 form id

/-- The settings of a server that has no name. -/
def serverDocument : Value :=
  .mapping .editable 2
    [(.string "server", .mapping .editable 3
      [(.string "port", .string "eighty"), (.string "name", .null)])]

theorem leadsToObject_serverDocument {q : String}
    (h : IsDottedPrefix q ("server" ++ "." ++ "port")) : LeadsToObject serverDocument q := by
  rcases h.of_last_segment (by decide) with rfl | h
  · exact ⟨_, _, walk_eq_ok_iff.1 rfl, rfl⟩
  · exact absurd h (not_isDottedPrefix (by decide))

/-- The port of the server is selected, and its name blocks the way to a part of it. -/
theorem name_blocks_way_in_serverDocument :
    let fieldCheck (key pattern : String) : Run :=
      check .standard serverDocument (.mapping .editable 4 [(.string key, .string pattern)])
    (fieldCheck "server.port" "number").outcome (some "cfg") =
        (check .standard (select serverDocument (some "server.port"))
          (.string "number")).outcome (some "cfg.server.port") ∧
      FirstBlock serverDocument "server.name.first" "server.name" ∧
      AdmitsAbsent .standard (.string "optional string") ∧
      (check .standard (select serverDocument (some "server.name.first"))
        (.string "optional string")).outcome (some "cfg.server.name.first") = .ok () ∧
      (fieldCheck "server.name.first" "optional string").outcome (some "cfg") =
        .error (.reported ⟨.pattern, "cfg.server.name should have object type!",
          some "cfg.server.name"⟩) := by
  intro fieldCheck
  have hblock : FirstBlock serverDocument "server.name.first" "server.name" := by
    refine ⟨⟨"first", rfl⟩, ?_, fun p hp => ?_⟩
    · rintro ⟨u, es, hu, hes⟩
      have hnull : walk (segments "server.name") serverDocument = .ok .null := rfl
      cases hnull.symm.trans (walk_eq_ok_iff.2 hu)
      cases hes
    · have hp' : IsDottedPrefix p ("server" ++ "." ++ "name") := hp
      rcases hp'.of_last_segment (by decide) with rfl | h
      · exact ⟨_, _, walk_eq_ok_iff.1 rfl, rfl⟩
      · exact absurd h (not_isDottedPrefix (by decide))
  obtain ⟨hport, -⟩ := select_agrees_with_field none serverDocument (.string "number") _ .editable 4
    "server.port" "cfg" rfl rfl (by decide) (isField_dotted "server" "port") (by decide)
  obtain ⟨-, hname⟩ := select_agrees_with_field none serverDocument (.string "optional string") _
    .editable 4 "server.name.first" "cfg" rfl rfl (by decide) (isField_dotted "server.name" "first")
    (by decide)
  obtain ⟨-, -, hname⟩ := hname ⟨_, hblock.isPrefix, hblock.blocked⟩
  obtain ⟨hselected, hfield⟩ := hname rfl
  have hadmits : AdmitsAbsent .standard (.string "optional string") :=
    .text (p := .leaf ⟨"string", true, false, "string"⟩) rfl rfl
  exact ⟨(hport fun q hq => leadsToObject_serverDocument hq).1, hblock, hadmits,
    hselected.2 hadmits, hfield _ hblock⟩

end DataShape
