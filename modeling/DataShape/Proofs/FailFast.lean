import DataShape.Proofs.FieldPatterns

/-!
# Failing fast

The parts of a container are checked one after the other, each as by a check of its own under the
path to it, and the first one that fails ends the whole.

* `NamedRun`, `FailsFast` — runs under names, and a run that is made of them.
* `failsFast_each`, `failsFast_checkFields` — members and fields are checked like this.
* `ElementPattern` — the pattern that a pattern asks of every member of an array.
* `memberChecks`, `fieldChecks` — the checks of the members of an array and of the fields of a
  pattern, each by itself.
* `choice_and_type_hide_elements` — a pattern under `__elements` is not asked of anything when the
  pattern gives a choice, or is for another type.
* `containers_fail_fast` — **arrays and objects are checked part by part**, up to the first fault.
-/

namespace DataShape

/-! ## Runs made of runs -/

/-- A run of the check of a value that has a name. -/
structure NamedRun where
  name : String
  run : Run

namespace NamedRun

def outcome (c : NamedRun) : Except Problem Unit := c.run.outcome (some c.name)

/-- Whether a run does what the given runs do, in their order, and nothing else. -/
structure Joins (whole : NamedRun) (parts : List NamedRun) : Prop where
  events : whole.run.events = parts.flatMap fun c => c.run.events
  seen : whole.run.seen = parts.flatMap fun c => c.run.seen

theorem joins_of_events {whole : NamedRun} {parts : List NamedRun}
    (h : whole.run.events = parts.flatMap fun c => c.run.events) : whole.Joins parts where
  events := h
  seen := by
    rw [Run.seen, h, List.filterMap_flatMap]
    rfl

end NamedRun

/-- A run that makes the given runs one after the other, until one fails. -/
structure FailsFast (whole : NamedRun) (parts : List NamedRun) : Prop where
  succeeds_iff : whole.outcome = .ok () ↔ ∀ c ∈ parts, c.outcome = .ok ()
  joins_of_success : whole.outcome = .ok () → whole.Joins parts
  /-- The first run that fails is the last one, and the whole ends like it. -/
  first_failure : ∀ done c rest, parts = done ++ c :: rest → (∀ d ∈ done, d.outcome = .ok ()) →
    c.outcome ≠ .ok () → whole.outcome = c.outcome ∧ whole.Joins (done ++ [c])

namespace FailsFast

variable {n : String} {r : Run} {next : Unit → Run} {c : NamedRun} {parts : List NamedRun}

theorem nil : FailsFast ⟨n, .pass⟩ [] where
  succeeds_iff := by
    simp only [List.not_mem_nil, false_implies, implies_true, iff_true]
    rfl
  joins_of_success _ := ⟨rfl, rfl⟩
  first_failure done c rest h := by simp at h

/-- A first run that succeeds leaves the end to the others. -/
theorem cons_of_succeeds (hr : r.succeeds = true) (hc : c.outcome = .ok ())
    (he : r.events = c.run.events) (h : FailsFast ⟨n, next ()⟩ parts) :
    FailsFast ⟨n, r.andThen next⟩ (c :: parts) := by
  have houtcome : NamedRun.outcome ⟨n, r.andThen next⟩ = NamedRun.outcome ⟨n, next ()⟩ := by
    rw [NamedRun.outcome, Run.andThen_of_succeeds hr]
    rfl
  have hjoins : ∀ made, NamedRun.Joins ⟨n, next ()⟩ made →
      NamedRun.Joins ⟨n, r.andThen next⟩ (c :: made) := by
    intro made hmade
    refine NamedRun.joins_of_events ?_
    rw [Run.andThen_of_succeeds hr, List.flatMap_cons, ← he, ← hmade.events]
  refine ⟨?_, fun hok => ?_, fun done d rest hparts hdone hd => ?_⟩
  · rw [houtcome, h.succeeds_iff, List.forall_mem_cons]
    exact ⟨fun hall => ⟨hc, hall⟩, fun hall => hall.2⟩
  · exact hjoins parts (h.joins_of_success (houtcome ▸ hok))
  · -- the run that fails is one of the others
    cases done with
    | nil =>
      cases hparts
      exact absurd hc hd
    | cons d' done =>
      obtain ⟨rfl, htail⟩ := List.cons.inj hparts
      have hrest : ∀ x ∈ done, x.outcome = .ok () :=
        fun x hx => hdone x (List.mem_cons_of_mem _ hx)
      obtain ⟨hend, hmade⟩ := h.first_failure done d rest htail hrest hd
      exact ⟨houtcome.trans hend, hjoins (done ++ [d]) hmade⟩

/-- A first run that fails is the last one. -/
theorem cons_of_fails (hr : r.succeeds = false) (hc : c.outcome ≠ .ok ())
    (ho : r.outcome (some n) = c.outcome) (he : r.events = c.run.events) :
    FailsFast ⟨n, r.andThen next⟩ (c :: parts) := by
  rw [Run.andThen_of_fails hr]
  have hfails : NamedRun.outcome ⟨n, r⟩ ≠ .ok () := fun h => hc (ho.symm.trans h)
  refine ⟨⟨fun h => absurd h hfails, fun h => absurd (h c List.mem_cons_self) hc⟩,
    fun h => absurd h hfails, fun done d rest hparts hdone hd => ?_⟩
  cases done with
  | nil =>
    cases hparts
    refine ⟨ho, NamedRun.joins_of_events ?_⟩
    simpa using he
  | cons d' done =>
    cases hparts
    exact absurd (hdone c List.mem_cons_self) hc

/-- One run more in front: it has to end like the check of the part by itself, and do the same. -/
theorem cons (ho : r.outcome (some n) = c.outcome) (he : r.events = c.run.events)
    (h : FailsFast ⟨n, next ()⟩ parts) : FailsFast ⟨n, r.andThen next⟩ (c :: parts) := by
  cases hr : r.succeeds with
  | true => exact cons_of_succeeds hr (ho ▸ Run.outcome_eq_ok_iff.2 hr) he h
  | false =>
    refine cons_of_fails hr (fun hok => ?_) ho he
    rw [← ho, Run.outcome_eq_ok_iff, hr] at hok
    cases hok

end FailsFast

/-! ## Members -/

/-- The name of a member of a named array. -/
def memberName (n : String) (i : Nat) : String := n ++ "[" ++ natText i ++ "]"

theorem memberName_eq (n : String) (i : Nat) : n ++ (Step.index i).text = memberName n i := by
  simp only [Step.text, memberName, String.append_assoc]

/-- The members of an array are checked like values of their own, until one fails. -/
theorem failsFast_each {n : String} (hn : n ≠ "") (check : Value → Run) (vs : List Value)
    (i : Nat) :
    FailsFast ⟨n, .each check i vs⟩
      ((vs.zipIdx i).map fun u => ⟨memberName n u.2, check u.1⟩) := by
  induction vs generalizing i with
  | nil => exact .nil
  | cons v vs ih =>
    rw [List.zipIdx_cons, List.map_cons]
    refine .cons ?_ rfl (ih (i + 1))
    rw [Run.outcome_under hn, memberName_eq]
    rfl

section

variable {T : TypeTable}

/-- What a pattern asks of every member of an array: the pattern under `__elements` of a mapping for
arrays that gives no choice, or the contents of a string pattern for arrays. -/
inductive ElementPattern (T : TypeTable) : Value → Value → Prop
  | mapping {P es E} : P.entries? = some es → givenType es = .string "array" →
      givenChoice es = none → Value.lookup Keyword.elements es = some E → ElementPattern T P E
  | built {o n type o' n' within s s'} :
      ElementPattern T (.prebuilt (.string "array") o n (.prebuilt type o' n' within s') s)
        (.prebuilt type o' n' within s')
  | spelled {s h p} : StringPattern.parse T s = .ok (.nest h p) → h.type = "array" →
      ElementPattern T (.string s) p.toValue
  /-- The contents may be written as a text as well. -/
  | spelledApart {s t h p} : StringPattern.parse T s = .ok (.nest h p) → h.type = "array" →
      StringPattern.parse T t = .ok p → ElementPattern T (.string s) (.string t)

theorem verify_of_parse {s : String} {p : StringPattern} (h : StringPattern.parse T s = .ok p) :
    verify T (.string s) = .ok (Pattern.ofString p) := by
  rw [verify, Pattern.read, h]
  rfl

/-- The string pattern of an array is read with the pattern of its contents. -/
theorem ofString_nest_of_array {h : PatternHead} (ht : h.type = "array") (p : StringPattern) :
    Pattern.ofString (.nest h p) = .elements (Pattern.ofHead h) (Pattern.ofString p) := by
  rw [Pattern.ofString, if_pos ht]

/-- A verified pattern with an element pattern is read with what that is read as. -/
theorem read_of_elementPattern {P E : Value} {p : Pattern} (h : ElementPattern T P E)
    (hP : verify T P = .ok p) :
    ∃ l q, p = .elements l q ∧ l.type = .string "array" ∧ l.allowed = none ∧
      verify T E = .ok q := by
  cases h with
  | @mapping _ es _ he hty hc hE =>
    have hsame : ∀ {type}, givenType es = .string type → "array" = type :=
      fun hty' => Value.string.inj (hty.symm.trans hty')
    cases Pattern.readsAs_of_read he hP with
    | object hty' => exact absurd (hsame hty') (by decide)
    | observable hty' => exact absurd (hsame hty') (by decide)
    | array _ _ hE' hq =>
      cases hE.symm.trans hE'
      exact ⟨_, _, rfl, rfl, hc, hq⟩
    | leaf hty' _ _ ha =>
      cases hE.symm.trans (ha (hsame hty').symm)
  | @built o n type o' n' within s s' =>
    cases hP
    exact ⟨_, _, rfl, rfl, rfl, rfl⟩
  | @spelled s h q hs ht =>
    cases (verify_of_parse hs).symm.trans hP
    exact ⟨_, _, ofString_nest_of_array ht q, congrArg Value.string ht, rfl,
      Pattern.read_toValue T q⟩
  | @spelledApart s t h q hs ht hq =>
    cases (verify_of_parse hs).symm.trans hP
    exact ⟨_, _, ofString_nest_of_array ht q, congrArg Value.string ht, rfl, verify_of_parse hq⟩

/-- The checks of the members of an array, each under the path to it. -/
def memberChecks (T : TypeTable) (E : Value) (n : String) (items : List Value) : List NamedRun :=
  items.zipIdx.map fun u => ⟨memberName n u.2, check T u.1 E⟩

/-- Entries for a verified pattern that does not check `items` by what is under `__elements`. -/
structure HidesElements (T : TypeTable) (es : List (Value × Value)) (E : Value)
    (items : List Value) : Prop where
  elements : Value.lookup Keyword.elements es = some E
  verified : (verification T (.mapping .editable 2 es)).outcome (some "n") = .ok ()
  members : ∀ c ∈ memberChecks T E "n" items, c.outcome = .ok ()
  not_failsFast : ¬ FailsFast ⟨"n", check T (.sequence .list 1 items) (.mapping .editable 2 es)⟩
    (memberChecks T E "n" items)

theorem choice_and_type_hide_elements :
    HidesElements .standard [(.string "__type", .string "array"),
        (.string "__elements", .string "number"), (.string "__allowedValues", .sequence .list 3 [])]
      (.string "number") [.integer 1] ∧
    HidesElements .standard [(.string "__elements", .string "number")]
      (.string "number") [.integer 1] := by
  have hmembers : ∀ c ∈ memberChecks .standard (.string "number") "n" [.integer 1],
      c.outcome = .ok () := by
    decide +kernel
  refine ⟨⟨rfl, by decide +kernel, hmembers, fun h => ?_⟩,
    ⟨rfl, by decide +kernel, hmembers, fun h => ?_⟩⟩
  · -- the choice settles the value
    have hok := h.succeeds_iff.2 hmembers
    revert hok
    decide +kernel
  · -- the type is that of objects
    have hok := h.succeeds_iff.2 hmembers
    revert hok
    decide +kernel

theorem check_elements_of_array {library : Option Library} {l : Level} {q : Pattern} {v : Value}
    {items : List Value} (hl : l.type = .string "array") (ha : l.allowed = none)
    (hv : v.members? = some items) :
    (Pattern.elements l q).check (.standardWith library) v =
      .each (q.check (.standardWith library)) 0 items := by
  have hkind : v.kind = .array := Value.kind_eq_array_iff.2 (by rw [hv]; rfl)
  rw [Pattern.check, Level.check_of_container (by rw [hkind]; rfl) (by rw [hkind]; rfl) hl ha,
    checkEach, Value.iterate?_eq_members? hkind, hv]

/-! ## Fields -/

/-- The checks of the fields of a pattern, each by a pattern with this field only. -/
def fieldChecks (T : TypeTable) (v : Value) (n : String) (form : MappingForm) (id : Nat)
    (es : List (Value × Value)) : List NamedRun :=
  (es.filter fun e => !Keyword.reserves e.1).map fun e => ⟨n, check T v (.mapping form id [e])⟩

theorem fields_of_object_type {P : Value} {es : List (Value × Value)} {p : Pattern}
    (he : P.entries? = some es) (hty : givenType es = .string "object")
    (hP : verify T P = .ok p) :
    ∃ fs, Pattern.fieldsOf (Pattern.readEntries T es) = .ok fs ∧
      p = .fields (givenLevel es "object") fs := by
  have hsame : ∀ {type}, givenType es = .string type → "object" = type :=
    fun hty' => Value.string.inj (hty.symm.trans hty')
  cases Pattern.readsAs_of_read he hP with
  | @object fs _ _ hfs => exact ⟨fs, hfs, rfl⟩
  | array hty' => exact absurd (hsame hty') (by decide)
  | observable hty' => exact absurd (hsame hty') (by decide)
  | leaf hty' _ hne => exact absurd (hsame hty').symm hne

theorem check_singleField {library : Option Library} {v : Value} {vs : List (Value × Value)}
    {k : String} {F : Value} {q : Pattern} (hv : v.entries? = some vs) (hk : IsField k)
    (hF : Pattern.read (.standardWith library) F = .ok q) (form : MappingForm) (id : Nat) :
    check (.standardWith library) v (.mapping form id [(.string k, F)]) =
      checkAt k (q.check (.standardWith library)) v := by
  have hT := Pattern.knows_object_standardWith library
  have hread : verify (.standardWith library) (.mapping form id [(.string k, F)]) =
      .ok (.fields objectLevel [(k, q)]) := by
    rw [verify, Pattern.read_of_fields rfl (by simpa using not_reserves_iff.2 hk) hT,
      Pattern.fieldsOf_cons hk, hF]
    rfl
  rw [check_of_verify hread, check_fields_of_object rfl rfl hv, Pattern.checkFields]
  exact Run.andThen_pass _

/-- The fields of an object are checked like those of patterns of their own, until one fails. -/
theorem failsFast_checkFields {library : Option Library} {v : Value} {vs es : List (Value × Value)}
    {fs : List (String × Pattern)} (hv : v.entries? = some vs)
    (hfs : Pattern.fieldsOf (Pattern.readEntries (.standardWith library) es) = .ok fs) (n : String)
    (form : MappingForm) (id : Nat) :
    FailsFast ⟨n, Pattern.checkFields (.standardWith library) fs v⟩
      (fieldChecks (.standardWith library) v n form id es) := by
  induction es generalizing fs with
  | nil =>
    cases hfs
    exact .nil
  | cons e es ih =>
    obtain ⟨key, F⟩ := e
    unfold fieldChecks at ih ⊢
    rcases Pattern.fieldsOf_cons_iff.1 hfs with ⟨hres, hes⟩ | ⟨k, q, ps, rfl, hk, hq, hps, rfl⟩
    · -- a reserved key contributes nothing
      rw [List.filter_cons_of_neg (by simpa using hres)]
      exact ih hes
    · have hsingle := check_singleField hv hk hq form id
      rw [List.filter_cons_of_pos (by simpa using not_reserves_iff.2 hk), List.map_cons,
        Pattern.checkFields]
      exact .cons (by rw [NamedRun.outcome, hsingle]) (by rw [hsingle]) (ih hps)

end

/-! ## Containers -/

/-- **Containers fail fast.**  A verified pattern checks the members of an array, by what it asks of
every member, and the fields of an object, by what it asks of each, like values of their own, one
after the other.  The check succeeds iff all of these do.  Otherwise it ends like the first that
fails, and nothing is shown to the library or called after that. -/
theorem containers_fail_fast (library : Option Library) (P : Value) (n : String) (hn : n ≠ "")
    (hP : (verification (.standardWith library) P).outcome (some n) = .ok ()) :
    (∀ E v items, ElementPattern (.standardWith library) P E → v.members? = some items →
      FailsFast ⟨n, check (.standardWith library) v P⟩
        (memberChecks (.standardWith library) E n items)) ∧
    ∀ es v vs form id, P.entries? = some es → givenType es = .string "object" →
      givenChoice es = none → v.entries? = some vs →
      FailsFast ⟨n, check (.standardWith library) v P⟩
        (fieldChecks (.standardWith library) v n form id es) := by
  obtain ⟨p, hp⟩ := verification_eq_ok_iff.1 hP
  constructor
  · intro E v items hE hv
    obtain ⟨l, q, rfl, hl, ha, hq⟩ := read_of_elementPattern hE hp
    have hmember : ∀ u, check (.standardWith library) u E = q.check (.standardWith library) u :=
      fun _ => check_of_verify hq _
    simp only [memberChecks, hmember]
    rw [check_of_verify hp, check_elements_of_array hl ha hv]
    exact failsFast_each hn _ items 0
  · intro es v vs form id he hty hc hv
    obtain ⟨fs, hfs, hread⟩ := fields_of_object_type he hty hp
    rw [check_of_verify hp, hread, check_fields_of_object rfl hc hv]
    exact failsFast_checkFields hv hfs n form id

/-- An array and an object with a fault in the middle and another one behind it. -/
theorem second_id_and_name_end_checks :
    let ids := Value.sequence .tuple 1 [.integer 1, .string "two", .null]
    let idsPattern := Value.mapping .editable 2
      [(.string "__type", .string "array"), (.string "__elements", .string "number")]
    let user := Value.mapping .readOnly 3 [(.string "id", .integer 1), (.string "name", .null)]
    let fields := [(Value.string "id", Value.string "number"), (.string "name", .string "string"),
      (.string "__required", .boolean false), (.string "home.town", .string "string")]
    (FailsFast ⟨"ids", check .standard ids idsPattern⟩
        (memberChecks .standard (.string "number") "ids"
          [.integer 1, .string "two", .null]) ∧
      (check .standard ids idsPattern).outcome (some "ids") =
        .error (.reported ⟨.pattern, "ids[1] should have number type!", some "ids[1]"⟩)) ∧
    FailsFast ⟨"user", check .standard user (.mapping .editable 4 fields)⟩
        (fieldChecks .standard user "user" .editable 0 fields) ∧
      (check .standard user (.mapping .editable 4 fields)).outcome (some "user") =
        .error (.reported ⟨.pattern, "user.name shouldn't be null!", some "user.name"⟩) :=
  ⟨⟨(containers_fail_fast none _ "ids" (by decide) (by decide +kernel)).1 _ _ _
      (.mapping rfl rfl rfl rfl) rfl, by decide +kernel⟩,
    (containers_fail_fast none _ "user" (by decide) (by decide +kernel)).2 _ _ _ _ _
      rfl rfl rfl rfl, by decide +kernel⟩

end DataShape
