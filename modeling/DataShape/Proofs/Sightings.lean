import DataShape.Proofs.Libraries
import Mathlib.Data.List.Forall2

/-!
# What the library sees

A check that succeeds shows the library exactly the observables that the pattern asks for, each
once and in the order in which the pattern goes through the value.

* `Enumerates` — a list of values that goes through certain places in order, each once;
  `Enumerates.unique` — there is only one such list.
* `Enumerates.append`, `Enumerates.part`, `Enumerates.cons` — lists put together from those of the
  parts.
* `fieldsIn`, `ObservableAt` — the values that stand where a pattern asks for an observable, said
  without a check.
* `Level.enumerates_check` — a level adds the value itself, before what is seen in its parts.
* `library_sees_observables` — **what the library sees**, in every check, and in one that succeeds.
-/

namespace DataShape

/-! ## Places in order -/

/-- Whether a list is that of the values at certain places, each once and in the order of the
places.  A place is given by the numbers of the parts that lead to it, so that a whole comes before
its parts and the parts come one after the other. -/
def Enumerates (values : List Value) (At : List Nat → Value → Prop) : Prop :=
  ∃ sightings : List (List Nat × Value),
    sightings.map Prod.snd = values ∧
    (sightings.map Prod.fst).Pairwise (· < ·) ∧
    ∀ place u, (place, u) ∈ sightings ↔ At place u

/-- A place in one of several parts, which are numbered from `i`. -/
def InParts {α : Type} (i : Nat) (xs : List α) (At : α → List Nat → Value → Prop)
    (place : List Nat) (u : Value) : Prop :=
  ∃ j x rest, xs[j]? = some x ∧ place = (i + j) :: rest ∧ At x rest u

theorem inParts_cons {α : Type} {i : Nat} {x : α} {xs : List α}
    {At : α → List Nat → Value → Prop} {place : List Nat} {u : Value} :
    InParts i (x :: xs) At place u ↔
      (∃ rest, place = i :: rest ∧ At x rest u) ∨ InParts (i + 1) xs At place u := by
  constructor
  · rintro ⟨j, y, rest, hy, rfl, hu⟩
    cases j with
    | zero =>
      cases hy
      exact .inl ⟨rest, rfl, hu⟩
    | succ j => exact .inr ⟨j, y, rest, hy, by rw [Nat.add_assoc, Nat.add_comm 1 j], hu⟩
  · rintro (⟨rest, rfl, hu⟩ | ⟨j, y, rest, hy, rfl, hu⟩)
    · exact ⟨0, x, rest, rfl, rfl, hu⟩
    · exact ⟨j + 1, y, rest, hy, by rw [Nat.add_assoc, Nat.add_comm 1 j], hu⟩

theorem ne_nil_of_inParts {α : Type} {i : Nat} {xs : List α} {At : α → List Nat → Value → Prop}
    {place : List Nat} {u : Value} (h : InParts i xs At place u) : place ≠ [] := by
  obtain ⟨j, x, rest, -, rfl, -⟩ := h
  exact List.cons_ne_nil _ _

namespace Enumerates

variable {values more : List Value} {At More : List Nat → Value → Prop}

theorem congr {At' : List Nat → Value → Prop} (h : Enumerates values At)
    (hat : ∀ place u, At place u ↔ At' place u) : Enumerates values At' := by
  obtain ⟨sightings, hvalues, hplaces, hmem⟩ := h
  exact ⟨sightings, hvalues, hplaces, fun place u => (hmem place u).trans (hat place u)⟩

/-- **The places determine the list.** -/
theorem unique {values' : List Value} (h : Enumerates values At) (h' : Enumerates values' At) :
    values = values' := by
  obtain ⟨sightings, rfl, hplaces, hmem⟩ := h
  obtain ⟨sightings', rfl, hplaces', hmem'⟩ := h'
  rw [List.pairwise_map] at hplaces hplaces'
  -- both lists have the same members, and ascending places leave only one order for them
  have hnodup : ∀ {s : List (List Nat × Value)}, s.Pairwise (fun a b => a.1 < b.1) → s.Nodup := by
    intro s hs
    refine List.Pairwise.imp (fun {a b} hlt => ?_) hs
    rintro rfl
    exact List.lt_irrefl _ hlt
  have hperm : sightings.Perm sightings' :=
    (List.perm_ext_iff_of_nodup (hnodup hplaces) (hnodup hplaces')).2 fun s =>
      (hmem s.1 s.2).trans (hmem' s.1 s.2).symm
  rw [hperm.eq_of_pairwise (fun _ _ _ _ hlt hgt => absurd hgt (List.lt_asymm hlt)) hplaces hplaces']

/-- Where there is no place there is nothing to see. -/
theorem nil (h : ∀ place u, ¬ At place u) : Enumerates [] At :=
  ⟨[], rfl, .nil, fun place u => iff_of_false List.not_mem_nil (h place u)⟩

theorem singleton (v : Value) : Enumerates [v] fun place u => place = [] ∧ u = v :=
  ⟨[([], v)], rfl, List.pairwise_singleton _ _, fun place u => by simp⟩

/-- One list after another, if all places of the first come before those of the second. -/
theorem append (h : Enumerates values At) (hmore : Enumerates more More)
    (hlt : ∀ place u, At place u → ∀ place' u', More place' u' → place < place') :
    Enumerates (values ++ more) fun place u => At place u ∨ More place u := by
  obtain ⟨sightings, hvalues, hplaces, hmem⟩ := h
  obtain ⟨later, hlater, hplaces', hmem'⟩ := hmore
  refine ⟨sightings ++ later, by rw [List.map_append, hvalues, hlater], ?_, fun place u => ?_⟩
  · rw [List.map_append, List.pairwise_append]
    refine ⟨hplaces, hplaces', fun place hplace place' hplace' => ?_⟩
    obtain ⟨⟨_, u⟩, hu, rfl⟩ := List.mem_map.1 hplace
    obtain ⟨⟨_, u'⟩, hu', rfl⟩ := List.mem_map.1 hplace'
    exact hlt _ u ((hmem _ u).1 hu) _ u' ((hmem' _ u').1 hu')
  · rw [List.mem_append, hmem, hmem']

/-- What is seen in a part stands, seen from the whole, in the part with that number. -/
theorem part (h : Enumerates values At) (i : Nat) :
    Enumerates values fun place u => ∃ rest, place = i :: rest ∧ At rest u := by
  obtain ⟨sightings, hvalues, hplaces, hmem⟩ := h
  refine ⟨sightings.map fun s => (i :: s.1, s.2), ?_, ?_, fun place u => ?_⟩
  · rw [List.map_map, ← hvalues]
    rfl
  · rw [List.map_map]
    rw [List.pairwise_map] at hplaces ⊢
    exact hplaces.imp fun hlt => List.cons_lt_cons_iff.2 (.inr ⟨rfl, hlt⟩)
  · rw [List.mem_map]
    constructor
    · rintro ⟨⟨rest, w⟩, hw, he⟩
      cases he
      exact ⟨rest, rfl, (hmem rest w).1 hw⟩
    · rintro ⟨rest, rfl, hu⟩
      exact ⟨(rest, u), (hmem rest u).2 hu, rfl⟩

/-- What is seen in the first part comes before what is seen in the others. -/
theorem cons {α : Type} {At : α → List Nat → Value → Prop} {i : Nat} {x : α} {xs : List α}
    (h : Enumerates values (At x)) (hmore : Enumerates more (InParts (i + 1) xs At)) :
    Enumerates (values ++ more) (InParts i (x :: xs) At) := by
  refine ((h.part i).append hmore ?_).congr fun place u => inParts_cons.symm
  rintro _ u ⟨rest, rfl, -⟩ _ u' ⟨j, y, rest', -, rfl, -⟩
  exact List.cons_lt_cons_iff.2 (.inl (by omega))

end Enumerates

/-! ## Observables in a value -/

/-- The fields of a mapping pattern, in order: the entries under keys that are not reserved. -/
def fieldsIn (es : List (Value × Value)) : List (String × Value) :=
  es.filterMap fun
    | (.string key, F) => if Keyword.reserves (.string key) then none else some (key, F)
    | _ => none

theorem mem_of_mem_fieldsIn {es : List (Value × Value)} {f : String × Value}
    (h : f ∈ fieldsIn es) : (.string f.1, f.2) ∈ es ∧ IsField f.1 := by
  obtain ⟨⟨key, F⟩, hmem, he⟩ := List.mem_filterMap.1 h
  cases key with
  | string k =>
    simp only at he
    split at he
    · cases he
    · rename_i hk
      cases he
      exact ⟨hmem, not_reserves_iff.1 hk⟩
  | _ => cases he

/-- Where in a value a text asks for an observable, and what stands there.  Absent and null values
do not count. -/
inductive StringPattern.ObservableAt : StringPattern → Value → List Nat → Value → Prop
  | here {p v} : p.head.type = "observable" → v ≠ .missing → v ≠ .null → ObservableAt p v [] v
  | member {h p v items i u place w} : h.type = "array" → v.members? = some items →
      items[i]? = some u → ObservableAt p u place w → ObservableAt (.nest h p) v (i :: place) w
  | contents {h p v u place w} : h.type = "observable" → v.call = .returned u →
      ObservableAt p u place w → ObservableAt (.nest h p) v (0 :: place) w

/-- Where in a value a pattern asks for an observable, and what stands there.  A place is given by
the numbers of members of arrays and of fields of the pattern, and 0 for the contents of an
observable.  A mapping with a choice asks for none, neither itself nor further below. -/
inductive ObservableAt : Value → Value → List Nat → Value → Prop
  | text {s p v place u} : StringPattern.parse .standard s = .ok p → p.ObservableAt v place u →
      ObservableAt (.string s) v place u
  | here {P es v} : P.entries? = some es → givenChoice es = none →
      givenType es = .string "observable" → v ≠ .missing → v ≠ .null → ObservableAt P v [] v
  | member {P es E v items i u place w} : P.entries? = some es → givenChoice es = none →
      givenType es = .string "array" → Value.lookup Keyword.elements es = some E →
      v.members? = some items → items[i]? = some u → ObservableAt E u place w →
      ObservableAt P v (i :: place) w
  | field {P es key F v i u place w} : P.entries? = some es → givenChoice es = none →
      givenType es = .string "object" → (fieldsIn es)[i]? = some (key, F) →
      LeadsTo (segments key) v u → ObservableAt F u place w → ObservableAt P v (i :: place) w
  | contents {P es E v u place w} : P.entries? = some es → givenChoice es = none →
      givenType es = .string "observable" → Value.lookup Keyword.contents es = some E →
      E ≠ .null → v.call = .returned u → ObservableAt E u place w →
      ObservableAt P v (0 :: place) w

/-- A place in the contents of an observable. -/
def InContents (v : Value) (At : Value → List Nat → Value → Prop) (place : List Nat)
    (w : Value) : Prop :=
  ∃ u rest, v.call = .returned u ∧ place = 0 :: rest ∧ At u rest w

/-- A place in what the key of a field leads to. -/
def InField (v : Value) (f : String × Value) (place : List Nat) (w : Value) : Prop :=
  ∃ u, LeadsTo (segments f.1) v u ∧ ObservableAt f.2 u place w

/-- A value with parts is neither absent nor null. -/
theorem Value.present_of_leadsTo {keys : List String} (hkeys : keys ≠ []) {v u : Value}
    (h : LeadsTo keys v u) : v ≠ .missing ∧ v ≠ .null := by
  cases keys with
  | nil => exact absurd rfl hkeys
  | cons key keys =>
    obtain ⟨es, hes, -⟩ := h
    constructor <;> rintro rfl <;> cases hes

theorem Value.present_of_members {v : Value} {items : List Value} (h : v.members? = some items) :
    v ≠ .missing ∧ v ≠ .null := by
  constructor <;> rintro rfl <;> cases h

theorem Value.present_of_call {v u : Value} (h : v.call = .returned u) :
    v ≠ .missing ∧ v ≠ .null := by
  constructor <;> rintro rfl <;> cases h

theorem StringPattern.ObservableAt.present {p : StringPattern} {v u : Value} {place : List Nat}
    (h : p.ObservableAt v place u) : v ≠ .missing ∧ v ≠ .null := by
  cases h with
  | here _ hm hn => exact ⟨hm, hn⟩
  | member _ hitems => exact Value.present_of_members hitems
  | contents _ hcall => exact Value.present_of_call hcall

theorem ObservableAt.present {P v u : Value} {place : List Nat} (h : ObservableAt P v place u) :
    v ≠ .missing ∧ v ≠ .null := by
  cases h with
  | text _ h => exact h.present
  | here _ _ _ hm hn => exact ⟨hm, hn⟩
  | member _ _ _ _ hitems => exact Value.present_of_members hitems
  | field _ _ _ _ hleads => exact Value.present_of_leadsTo (segments_ne_nil _) hleads
  | contents _ _ _ _ _ hcall => exact Value.present_of_call hcall

/-- Where a mapping pattern asks for observables, by its type. -/
theorem observableAt_iff {P v u : Value} {es : List (Value × Value)} {place : List Nat}
    (he : P.entries? = some es) (hc : givenChoice es = none) (hv : v ≠ .missing ∧ v ≠ .null) :
    ObservableAt P v place u ↔
      (givenType es = .string "observable" ∧ place = [] ∧ u = v) ∨
      (givenType es = .string "array" ∧ ∃ E items, Value.lookup Keyword.elements es = some E ∧
        v.members? = some items ∧ InParts 0 items (ObservableAt E) place u) ∨
      (givenType es = .string "object" ∧ InParts 0 (fieldsIn es) (InField v) place u) ∨
      (givenType es = .string "observable" ∧ ∃ E, Value.lookup Keyword.contents es = some E ∧
        E ≠ .null ∧ InContents v (ObservableAt E) place u) := by
  constructor
  · intro h
    cases h with
    | text => cases he
    | here he' _ hty =>
      cases he.symm.trans he'
      exact .inl ⟨hty, rfl, rfl⟩
    | @member _ _ E _ items i t place _ he' _ hty hE hitems hi h =>
      cases he.symm.trans he'
      exact .inr (.inl ⟨hty, E, items, hE, hitems, i, t, place, hi, by rw [Nat.zero_add], h⟩)
    | @field _ _ key F _ i t place _ he' _ hty hi hleads h =>
      cases he.symm.trans he'
      exact .inr (.inr (.inl ⟨hty, i, (key, F), place, hi, by rw [Nat.zero_add], t, hleads, h⟩))
    | @contents _ _ E _ t place _ he' _ hty hE hn hcall h =>
      cases he.symm.trans he'
      exact .inr (.inr (.inr ⟨hty, E, hE, hn, t, place, hcall, rfl, h⟩))
  · rintro (⟨hty, rfl, rfl⟩ | ⟨hty, E, items, hE, hitems, i, t, rest, hi, rfl, h⟩ |
      ⟨hty, i, ⟨key, F⟩, rest, hi, rfl, t, hleads, h⟩ |
      ⟨hty, E, hE, hn, t, rest, hcall, rfl, h⟩)
    · exact .here he hc hty hv.1 hv.2
    · rw [Nat.zero_add]
      exact .member he hc hty hE hitems hi h
    · rw [Nat.zero_add]
      exact .field he hc hty hi hleads h
    · exact .contents he hc hty hE hn hcall h

/-! ## What is seen in a successful run -/

section

variable {library : Library} {v : Value} {l : Level} {p : Pattern}

/-- Of the tests of the default types only that of observables shows anything. -/
theorem TypeTable.seen_check_of_succeeds {type : String}
    (h : ((standardWith (some library)).check v (.string type)).succeeds = true) :
    ((standardWith (some library)).check v (.string type)).seen =
      if type = "observable" then [v] else [] := by
  by_cases ht : type = "observable"
  · obtain ⟨l, hl, hyes⟩ : HasType (some library) "observable" v :=
      succeeds_check_standardWith.1 (ht ▸ h)
    cases hl
    rw [if_pos ht, ht, check_observable, Checker.run]
    simp only [hyes]
    rfl
  · rw [if_neg ht]
    exact seen_check_of_ne_observable fun he => ht (Value.string.inj he)

theorem Level.seen_check_of_opens {T : TypeTable} {parts : Unit → Run} (h : l.Opens T v) :
    (l.check T v parts).seen = (T.check v l.type).seen ++ (parts ()).seen := by
  rw [check_type h.notMissing h.notNull h.noChoice, Run.seen_andThen_of_succeeds h.typed]

theorem Level.seen_check_of_settles {T : TypeTable} {parts : Unit → Run} (h : l.Settles v) :
    (l.check T v parts).seen = [] := by
  cases h with
  | missing => rw [check_missing, Run.seen_require]
  | null => rw [check_null, Run.seen_require]
  | choice hm hn ha => rw [check_choice hm hn ha, Run.seen_require]

/-- **A level that lets a value through** shows nothing if it settles the value, and else the value
itself, if its type is observable, before what is seen in its parts. -/
theorem Level.enumerates_check {At : List Nat → Value → Prop} (Parts : List Nat → Value → Prop)
    {type : String} (hl : l.type = .string type) {parts : Unit → Run}
    (hs : (l.check (.standardWith (some library)) v parts).succeeds = true)
    (hsettled : l.Settles v → ∀ place u, ¬ At place u)
    (hopen : l.Opens (.standardWith (some library)) v →
      (∀ place u, At place u ↔ (type = "observable" ∧ place = [] ∧ u = v) ∨ Parts place u) ∧
      (∀ place u, Parts place u → place ≠ []) ∧
      ((parts ()).succeeds = true → Enumerates (parts ()).seen Parts)) :
    Enumerates (l.check (.standardWith (some library)) v parts).seen At := by
  rcases succeeds_check_iff.1 hs with h | ⟨h, hp⟩
  · rw [seen_check_of_settles h]
    exact .nil (hsettled h)
  obtain ⟨hat, hinner, hparts⟩ := hopen h
  have htest := h.typed
  rw [hl] at htest
  rw [seen_check_of_opens h, hl, TypeTable.seen_check_of_succeeds htest]
  by_cases ht : type = "observable"
  · -- the value itself has the empty place, which comes before all places in its parts
    rw [if_pos ht]
    refine ((Enumerates.singleton v).append (hparts hp) ?_).congr fun place u => ?_
    · rintro _ u ⟨rfl, -⟩ place hplace hu
      cases place with
      | nil => exact absurd rfl (hinner _ _ hu)
      | cons i place => exact List.nil_lt_cons _ _
    · rw [hat]
      simp [ht]
  · rw [if_neg ht]
    refine (hparts hp).congr fun place u => ?_
    rw [hat]
    simp [ht]

theorem enumerates_each {c : Value → Run} {At : Value → List Nat → Value → Prop}
    (h : ∀ u, (c u).succeeds = true → Enumerates (c u).seen (At u)) {i : Nat} {vs : List Value}
    (hs : (Run.each c i vs).succeeds = true) :
    Enumerates (Run.each c i vs).seen (InParts i vs At) := by
  induction vs generalizing i with
  | nil => exact .nil fun place u ⟨j, x, rest, hx, _⟩ => by simp at hx
  | cons v vs ih =>
    obtain ⟨hv, hvs⟩ := Run.succeeds_andThen.1 hs
    rw [Run.each, Run.seen_andThen_of_succeeds hv, Run.seen_under]
    rw [Run.succeeds_under] at hv
    exact .cons (h v hv) (ih hvs)

theorem enumerates_checkCall {c : Value → Run} {At : Value → List Nat → Value → Prop}
    (h : ∀ u, (c u).succeeds = true → Enumerates (c u).seen (At u))
    (hs : (checkCall c v).succeeds = true) :
    Enumerates (checkCall c v).seen (InContents v At) := by
  unfold checkCall at hs ⊢
  rw [Run.succeeds_calling] at hs
  rw [Run.seen_calling]
  cases hv : v.call with
  | returned u =>
    simp only [hv, Run.succeeds_under] at hs
    refine ((h u hs).part 0).congr fun place w => ?_
    simp [InContents, hv]
  | raised message => simp [hv] at hs
  | notCallable => simp [hv] at hs

/-- The fields of a pattern are read from those of the mapping, one by one. -/
theorem fieldsOf_forall₂ {T : TypeTable} {es : List (Value × Value)} {fs : List (String × Pattern)}
    (h : Pattern.fieldsOf (Pattern.readEntries T es) = .ok fs) :
    List.Forall₂ (fun f g => f.1 = g.1 ∧ Pattern.read T f.2 = .ok g.2) (fieldsIn es) fs := by
  induction es generalizing fs with
  | nil =>
    cases h
    exact .nil
  | cons e es ih =>
    obtain ⟨key, F⟩ := e
    rcases Pattern.fieldsOf_cons_iff.1 h with ⟨hres, hes⟩ | ⟨k, q, gs, rfl, hfield, hq, hgs, rfl⟩
    · have hskip : fieldsIn ((key, F) :: es) = fieldsIn es := by
        cases key with
        | string k => simp [fieldsIn, hres]
        | _ => cases hres
      rw [hskip]
      exact ih hes
    · have htake : fieldsIn ((.string k, F) :: es) = (k, F) :: fieldsIn es := by
        simp [fieldsIn, Bool.eq_false_iff.2 (not_reserves_iff.2 hfield)]
      rw [htake]
      exact .cons ⟨rfl, hq⟩ (ih hgs)

theorem enumerates_checkFields {T : TypeTable} {fields : List (String × Value)}
    {fs : List (String × Pattern)}
    (h : List.Forall₂ (fun f g => f.1 = g.1 ∧ Pattern.read T f.2 = .ok g.2) fields fs)
    (hsub : ∀ f ∈ fields, ∀ q u, Pattern.read T f.2 = .ok q → (q.check T u).succeeds = true →
      Enumerates (q.check T u).seen (ObservableAt f.2 u)) (i : Nat)
    (hs : (Pattern.checkFields T fs v).succeeds = true) :
    Enumerates (Pattern.checkFields T fs v).seen (InParts i fields (InField v)) := by
  induction h generalizing i with
  | nil => exact .nil fun place u ⟨j, x, rest, hx, _⟩ => by simp at hx
  | @cons f g fields fs hfg _ ih =>
    obtain ⟨hf, hfields⟩ := List.forall_mem_cons.1 hsub
    obtain ⟨hkey, hread⟩ := hfg
    obtain ⟨hg, hgs⟩ := Run.succeeds_andThen.1 hs
    rw [Pattern.checkFields, Run.seen_andThen_of_succeeds hg]
    refine .cons ?_ (ih hfields (i + 1) hgs)
    obtain ⟨u, hu, hcheck⟩ := Pattern.succeeds_checkAt.1 hg
    have hseen : (checkAt g.1 (fun u => g.2.check T u) v).seen = (g.2.check T u).seen := by
      simp only [checkAt, hu, Run.seen_within]
    rw [hseen]
    refine (hf g.2 u hread hcheck).congr fun place w => ?_
    -- a key leads to one value only
    have huniq : ∀ t, LeadsTo (segments g.1) v t ↔ t = u := by
      intro t
      rw [← walk_eq_ok_iff, hu, Except.ok.injEq, eq_comm]
    simp [InField, hkey, huniq]

/-! ## By the form of the pattern -/

/-- Without a choice only absent and null values are settled. -/
theorem Level.absent_of_settles (h : l.Settles v) (hc : l.allowed = none) :
    ¬ (v ≠ .missing ∧ v ≠ .null) := by
  rintro ⟨hm, hn⟩
  cases h with
  | missing => exact hm rfl
  | null => exact hn rfl
  | choice _ _ ha => cases hc.symm.trans ha

theorem enumerates_leaf {At : List Nat → Value → Prop} {type : String}
    (hl : l.type = .string type)
    (hs : ((Pattern.leaf l).check (.standardWith (some library)) v).succeeds = true)
    (hsettled : l.Settles v → ∀ place u, ¬ At place u)
    (hopen : l.Opens (.standardWith (some library)) v → ∀ place u,
      At place u ↔ type = "observable" ∧ place = [] ∧ u = v) :
    Enumerates ((Pattern.leaf l).check (.standardWith (some library)) v).seen At := by
  refine Level.enumerates_check (fun _ _ => False) hl hs hsettled fun h => ⟨?_, ?_, ?_⟩
  · intro place u
    rw [hopen h, or_false]
  · exact fun _ _ h => h.elim
  · exact fun _ => .nil fun _ _ h => h

theorem enumerates_elements {At : List Nat → Value → Prop}
    {Each : Value → List Nat → Value → Prop} (hl : l.type = .string "array")
    (hs : ((Pattern.elements l p).check (.standardWith (some library)) v).succeeds = true)
    (hsettled : l.Settles v → ∀ place u, ¬ At place u)
    (hopen : l.Opens (.standardWith (some library)) v → ∀ items, v.members? = some items →
      ∀ place u, At place u ↔ InParts 0 items Each place u)
    (hp : ∀ u, (p.check (.standardWith (some library)) u).succeeds = true →
      Enumerates (p.check (.standardWith (some library)) u).seen (Each u)) :
    Enumerates ((Pattern.elements l p).check (.standardWith (some library)) v).seen At := by
  refine Level.enumerates_check (InParts 0 (v.members?.getD []) Each) hl hs hsettled
    fun h => ?_
  have harray : HasType (some library) "array" v := succeeds_check_standardWith.1 (hl ▸ h.typed)
  have hiterate := iterate?_eq_members?_of_hasType harray
  obtain ⟨items, hitems⟩ : ∃ items, v.members? = some items := harray
  refine ⟨fun place u => ?_, fun _ _ => ne_nil_of_inParts, fun hparts => ?_⟩
  · rw [hopen h items hitems, hitems]
    simp
  · simp only [checkEach, hiterate, hitems, Option.getD_some] at hparts ⊢
    exact enumerates_each hp hparts

theorem enumerates_contents {At : List Nat → Value → Prop}
    {Inner : Value → List Nat → Value → Prop} (hl : l.type = .string "observable")
    (hs : ((Pattern.contents l p).check (.standardWith (some library)) v).succeeds = true)
    (hsettled : l.Settles v → ∀ place u, ¬ At place u)
    (hopen : l.Opens (.standardWith (some library)) v → ∀ place u,
      At place u ↔ (place = [] ∧ u = v) ∨ InContents v Inner place u)
    (hp : ∀ u, (p.check (.standardWith (some library)) u).succeeds = true →
      Enumerates (p.check (.standardWith (some library)) u).seen (Inner u)) :
    Enumerates ((Pattern.contents l p).check (.standardWith (some library)) v).seen At := by
  refine Level.enumerates_check (InContents v Inner) hl hs hsettled fun h => ⟨?_, ?_, ?_⟩
  · intro place u
    rw [hopen h]
    simp
  · rintro _ u ⟨t, rest, -, rfl, -⟩
    exact List.cons_ne_nil _ _
  · exact enumerates_checkCall hp

/-- **A text that a value passes** shows the library the observables that the text asks for. -/
theorem enumerates_ofString {p : StringPattern}
    (hp : p.Grammatical (.standardWith (some library)))
    (hs : ((Pattern.ofString p).check (.standardWith (some library)) v).succeeds = true) :
    Enumerates ((Pattern.ofString p).check (.standardWith (some library)) v).seen
      (p.ObservableAt v) := by
  have hsettled : ∀ {h : PatternHead} {q : StringPattern}, (Pattern.ofHead h).Settles v →
      ∀ place u, ¬ q.ObservableAt v place u :=
    fun h _ _ hat => Level.absent_of_settles h rfl hat.present
  induction hp generalizing v with
  | @leaf h _ _ =>
    refine enumerates_leaf rfl hs hsettled fun ho place u => ?_
    constructor
    · intro hat
      cases hat with
      | here ht => exact ⟨ht, rfl, rfl⟩
    · rintro ⟨ht, rfl, rfl⟩
      exact .here ht ho.notMissing ho.notNull
  | @nest h q _ hnest _ ih =>
    have hq : ∀ u, ((Pattern.ofString q).check (.standardWith (some library)) u).succeeds = true →
        Enumerates ((Pattern.ofString q).check (.standardWith (some library)) u).seen
          (q.ObservableAt u) :=
      fun u hu => ih hu fun h _ _ hat => Level.absent_of_settles h rfl hat.present
    by_cases ha : h.type = "array"
    · rw [Pattern.ofString, if_pos ha] at hs ⊢
      refine enumerates_elements (congrArg Value.string ha) hs hsettled ?_ hq
      intro ho items hitems place u
      constructor
      · intro hat
        cases hat with
        | here ht => exact absurd (ha.symm.trans ht) (by decide)
        | member _ hitems' hi hat =>
          cases hitems.symm.trans hitems'
          exact ⟨_, _, _, hi, by rw [Nat.zero_add], hat⟩
        | contents ht => exact absurd (ha.symm.trans ht) (by decide)
      · rintro ⟨i, t, rest, hi, rfl, hat⟩
        rw [Nat.zero_add]
        exact .member ha hitems hi hat
    · have hb : h.type = "observable" := by simpa [nestingTypes, ha] using hnest
      rw [Pattern.ofString, if_neg ha] at hs ⊢
      refine enumerates_contents (congrArg Value.string hb) hs hsettled ?_ hq
      intro ho place u
      constructor
      · intro hat
        cases hat with
        | here => exact .inl ⟨rfl, rfl⟩
        | member ht => exact absurd ht ha
        | contents _ hcall hat => exact .inr ⟨_, _, hcall, rfl, hat⟩
      · rintro (⟨rfl, rfl⟩ | ⟨t, rest, hcall, rfl, hat⟩)
        · exact .here hb ho.notMissing ho.notNull
        · exact .contents hb hcall hat

/-- A mapping pattern that settles a value asks for no observable in it. -/
theorem not_observableAt_of_settles {P u : Value} {es : List (Value × Value)} {type : String}
    {place : List Nat} (he : P.entries? = some es) (h : (givenLevel es type).Settles v) :
    ¬ ObservableAt P v place u := by
  intro hat
  cases hc : givenChoice es with
  | none => exact Level.absent_of_settles h hc hat.present
  | some vs =>
    cases hat with
    | text => cases he
    | here he' hc' | member he' hc' | field he' hc' | contents he' hc' =>
      cases he.symm.trans he'
      cases hc.symm.trans hc'

/-- A pattern that a value passes shows the library the observables that it asks for. -/
theorem enumerates_check (P : Value) {p : Pattern} (hw : P.isWrittenOut = true)
    (hr : Pattern.read (.standardWith (some library)) P = .ok p)
    (hs : (p.check (.standardWith (some library)) v).succeeds = true) :
    Enumerates (p.check (.standardWith (some library)) v).seen (ObservableAt P v) := by
  induction P using Value.inductOnEntries generalizing p v with
  | other P he =>
    rcases Pattern.read_of_no_entries he hr with ⟨s, sp, rfl, hp, rfl⟩ | ⟨_, _, _, _, _, rfl, -⟩
    · refine (enumerates_ofString (StringPattern.grammatical_of_parse hp) hs).congr ?_
      have hparse : StringPattern.parse .standard s = .ok sp := by
        rw [← hp, StringPattern.parse, StringPattern.parse, StringPattern.parseWords_congr]
        exact fun name => (TypeTable.knows_standardWith _ name).symm
      intro place u
      constructor
      · exact .text hparse
      · intro hat
        cases hat with
        | text hsp hat =>
          cases hparse.symm.trans hsp
          exact hat
        | here he' | member he' | field he' | contents he' => cases he'
    · cases hw
  | entries P es he ih =>
    have hsub : ∀ {k E q u}, (k, E) ∈ es → Keyword.isPlace k = true →
        Pattern.read (.standardWith (some library)) E = .ok q →
        (q.check (.standardWith (some library)) u).succeeds = true →
        Enumerates (q.check (.standardWith (some library)) u).seen (ObservableAt E u) :=
      fun hE hk hq hu => ih _ hE (Value.isWrittenOut_of_mem he hw hE hk) hq hu
    have hsettled : ∀ {type}, (givenLevel es type).Settles v → ∀ place u,
        ¬ ObservableAt P v place u := fun h _ _ => not_observableAt_of_settles he h
    cases Pattern.readsAs_of_read he hr with
    | @object fs hty _ hfs =>
      refine Level.enumerates_check (InParts 0 (fieldsIn es) (InField v)) rfl hs hsettled
        fun ho => ⟨fun place u => ?_, fun _ _ => ne_nil_of_inParts, fun hparts => ?_⟩
      · rw [observableAt_iff he ho.noChoice ⟨ho.notMissing, ho.notNull⟩]
        simp [hty]
      · refine enumerates_checkFields (fieldsOf_forall₂ hfs) (fun f hf q u hq => ?_) 0 hparts
        obtain ⟨hmem, hfield⟩ := mem_of_mem_fieldsIn hf
        exact hsub hmem (isPlace_of_isField hfield) hq
    | @array E q hty _ hE hq =>
      refine enumerates_elements rfl hs hsettled ?_ fun u => hsub (Value.lookup_mem hE) rfl hq
      intro ho items hitems place u
      rw [observableAt_iff he ho.noChoice ⟨ho.notMissing, ho.notNull⟩]
      simp [hty, hE, hitems]
    | @observable E q hty _ hE hn hq =>
      refine enumerates_contents rfl hs hsettled ?_ fun u => hsub (Value.lookup_mem hE) rfl hq
      intro ho place u
      rw [observableAt_iff he ho.noChoice ⟨ho.notMissing, ho.notNull⟩]
      simp [hty, hE, hn]
    | @leaf type hty _ ho ha hb =>
      refine enumerates_leaf rfl hs hsettled fun hopen place u => ?_
      rw [observableAt_iff he hopen.noChoice ⟨hopen.notMissing, hopen.notNull⟩]
      simp only [hty, Value.string.injEq]
      refine ⟨fun h => ?_, .inl⟩
      rcases h with h | ⟨ht, E, items, hE, -⟩ | ⟨ht, -⟩ | ⟨ht, E, hE, hn, -⟩
      · exact h
      · cases (ha ht).symm.trans hE
      · exact absurd ht ho
      · exact absurd (hb ht E hE) hn

end

/-- **What the library sees.**  No check shows it an absent or null value, and a check against a
pattern that is not verified shows it nothing.  A check that succeeds, whatever the name, shows it
exactly the list of the values that stand where the pattern asks for observables, each once and in
order. -/
theorem library_sees_observables (library : Library) (P v : Value) (name : Option String) :
    let run := check (.standardWith (some library)) v P
    (∀ u ∈ run.seen, u ≠ .missing ∧ u ≠ .null) ∧
    ((verification (.standardWith (some library)) P).outcome name ≠ .ok () → run.seen = []) ∧
    (P.isWrittenOut = true → run.outcome name = .ok () →
      ∀ values, Enumerates values (ObservableAt P v) ↔ values = run.seen) := by
  intro run
  cases hP : verify (.standardWith (some library)) P with
  | error f =>
    have hrun : run = .fail (.defect f) := check_of_verify_error hP v
    rw [hrun]
    refine ⟨fun u hu => ?_, fun _ => rfl, fun _ hok => ?_⟩
    · cases hu
    · cases hok
  | ok p =>
    have hrun : run = p.check (.standardWith (some library)) v := check_of_verify hP v
    rw [hrun]
    refine ⟨?_, fun hno => ?_, fun hw hok => ?_⟩
    · refine Pattern.mem_seen_check (fun w type hm hn u hu => ?_) p v
      rw [TypeTable.eq_of_mem_seen_check hu]
      exact ⟨hm, hn⟩
    · exact absurd (verification_eq_ok_iff.2 ⟨p, hP⟩) hno
    · have hseen := enumerates_check P hw hP (Run.outcome_eq_ok_iff.1 hok)
      intro values
      constructor
      · exact fun h => h.unique hseen
      · rintro rfl
        exact hseen

/-- A pattern with observables in an array under a dotted key, in another observable, under a
choice, and in a field that may be absent. -/
def inboxPattern : Value :=
  .mapping .editable 2
    [(.string "unread.items", .string "array nullable observable observable number"),
      (.string "badge", .mapping .editable 3
        [(.string "__type", .string "observable"),
          (.string "__value", .string "optional observable")]),
      (.string "mode", .mapping .editable 4
        [(.string "__type", .string "observable"),
          (.string "__allowedValues", .sequence .list 5 [.string "silent"])]),
      (.string "draft", .string "optional observable")]

/-- A value for that pattern. -/
def inbox : Value :=
  .mapping .editable 6
    [(.string "mode", .string "silent"), (.string "badge", .observable 7 .missing),
      (.string "unread", .mapping .editable 8
        [(.string "items", .sequence .list 9
          [.observable 10 (.observable 11 (.integer 1)), .null,
            .observable 12 (.observable 13 (.integer 2))])])]

theorem library_sees_inbox :
    let T := TypeTable.standardWith (some (.ofKind 1 "ko"))
    inboxPattern.isWrittenOut = true ∧ (check T inbox inboxPattern).outcome none = .ok () ∧
      Enumerates
        [.observable 10 (.observable 11 (.integer 1)), .observable 11 (.integer 1),
          .observable 12 (.observable 13 (.integer 2)), .observable 13 (.integer 2),
          .observable 7 .missing] (ObservableAt inboxPattern inbox) ∧
      (verification T (.string "observable badge")).outcome none ≠ .ok () ∧
      (check T (.observable 7 .missing) (.string "observable badge")).seen = [] := by
  intro T
  have hok : (check T inbox inboxPattern).outcome none = .ok () :=
    Run.outcome_eq_ok_iff.2 (by decide +kernel)
  have hno : (verification T (.string "observable badge")).outcome none ≠ .ok () := by
    decide +kernel
  refine ⟨rfl, hok, ?_, hno, (library_sees_observables _ _ _ none).2.1 hno⟩
  exact ((library_sees_observables _ _ _ none).2.2 rfl hok _).2 (by with_unfolding_all rfl)

end DataShape
