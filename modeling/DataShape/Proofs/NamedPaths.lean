import DataShape.Proofs.Conformance
import DataShape.Proofs.FailFast

/-!
# Named paths

The pattern of an object sees nothing of a value but what the keys of its fields lead to.

* `SameAlong` — a key leads to the same place in two values, or is blocked after the same number of
  segments; `sameAlong_iff` — that is what a walk returns.
* `Pattern.checkFields_eq_of_walk_eq` — fields are checked alike where their keys lead alike.
* `NamesPath` — the paths that the fields of a pattern name.
* `Unnoticed` — changes of a value that stay off given paths; `Unnoticed.walk_eq`.
* `only_named_paths_matter` — **values that agree along the named paths are checked alike**, and
  changes off these paths are not noticed.
-/

namespace DataShape

/-! ## Where two values lead -/

/-- Whether the first `i` segments of a key lead to a value that is not an object, with segments
left to follow. -/
def BlockedAfter (i : Nat) (keys : List String) (v : Value) : Prop :=
  i < keys.length ∧ ∃ u, LeadsTo (keys.take i) v u ∧ u.entries? = none

/-- Whether a key leads to the same value in two values, which may be an absent one, or is blocked
in both after the same number of segments.  What blocks it may differ. -/
def SameAlong (keys : List String) (v w : Value) : Prop :=
  (∃ u, LeadsTo keys v u ∧ LeadsTo keys w u) ∨ ∃ i, BlockedAfter i keys v ∧ BlockedAfter i keys w

section

variable {keys : List String} {v w : Value}

theorem blockedAfter_succ {i : Nat} {key : String} :
    BlockedAfter (i + 1) (key :: keys) v ↔
      ∃ es, v.entries? = some es ∧ BlockedAfter i keys (Value.getD key es) := by
  simp only [BlockedAfter, List.length_cons, Nat.add_lt_add_iff_right, List.take_succ_cons, LeadsTo]
  constructor
  · rintro ⟨hi, u, ⟨es, hv, hu⟩, hnone⟩
    exact ⟨es, hv, hi, u, hu, hnone⟩
  · rintro ⟨es, hv, hi, u, hu, hnone⟩
    exact ⟨hi, u, ⟨es, hv, hu⟩, hnone⟩

/-- A walk fails with the segments up to the value that blocks it. -/
theorem walk_eq_error_iff {steps : List Step} :
    walk keys v = .error steps ↔ ∃ i, BlockedAfter i keys v ∧ steps = keySteps (keys.take i) := by
  induction keys generalizing v steps with
  | nil => simp [walk, BlockedAfter]
  | cons key keys ih =>
    cases hv : v.entries? with
    | none =>
      rw [walk, hv]
      constructor
      · intro h
        cases h
        exact ⟨0, ⟨Nat.succ_pos _, v, rfl, hv⟩, rfl⟩
      · rintro ⟨i, hi, rfl⟩
        cases i with
        | zero => rfl
        | succ i =>
          obtain ⟨es, hes, -⟩ := blockedAfter_succ.1 hi
          cases hv.symm.trans hes
    | some es =>
      rw [walk, hv]
      constructor
      · intro h
        obtain ⟨rest, hrest, rfl⟩ := mapError_eq_error_iff.1 h
        obtain ⟨i, hi, rfl⟩ := ih.1 hrest
        exact ⟨i + 1, blockedAfter_succ.2 ⟨es, hv, hi⟩, rfl⟩
      · rintro ⟨i, hi, rfl⟩
        cases i with
        | zero =>
          obtain ⟨-, u, rfl, hnone⟩ := hi
          cases hv.symm.trans hnone
        | succ i =>
          obtain ⟨es', hes, hi⟩ := blockedAfter_succ.1 hi
          cases hv.symm.trans hes
          exact mapError_eq_error_iff.2 ⟨_, ih.2 ⟨i, hi, rfl⟩, rfl⟩

/-- A key leads to the same place in two values iff the walks along it are the same. -/
theorem sameAlong_iff : SameAlong keys v w ↔ walk keys v = walk keys w := by
  constructor
  · rintro (⟨u, hv, hw⟩ | ⟨i, hv, hw⟩)
    · rw [walk_eq_ok_iff.2 hv, walk_eq_ok_iff.2 hw]
    · rw [walk_eq_error_iff.2 ⟨i, hv, rfl⟩, walk_eq_error_iff.2 ⟨i, hw, rfl⟩]
  · intro h
    cases hv : walk keys v with
    | ok u => exact .inl ⟨u, walk_eq_ok_iff.1 hv, walk_eq_ok_iff.1 (h ▸ hv)⟩
    | error steps =>
      obtain ⟨i, hi, rfl⟩ := walk_eq_error_iff.1 hv
      obtain ⟨j, hj, hij⟩ := walk_eq_error_iff.1 (h ▸ hv)
      -- the steps are as many as the segments before the block
      have hlength := congrArg List.length hij
      simp only [keySteps, List.length_map, List.length_take] at hlength
      have hi' := hi.1
      have hj' := hj.1
      obtain rfl : i = j := by omega
      exact .inr ⟨i, hi, hj⟩

end

/-- Fields are checked alike in values in which their keys lead to the same places. -/
theorem Pattern.checkFields_eq_of_walk_eq {T : TypeTable} {fs : List (String × Pattern)}
    {v w : Value} (h : ∀ f ∈ fs, walk (segments f.1) v = walk (segments f.1) w) :
    checkFields T fs v = checkFields T fs w := by
  induction fs with
  | nil => rfl
  | cons f fs ih =>
    obtain ⟨key, p⟩ := f
    obtain ⟨hkey, hfs⟩ := List.forall_mem_cons.1 h
    rw [checkFields, checkFields, checkAt, checkAt, hkey, ih hfs]

/-! ## Changes off the paths -/

namespace Value

variable {key : String} {v : Value} {es fs : List (Value × Value)}

/-- Under distinct keys, what is found under a key is the entry that has it. -/
theorem lookup_eq_some_iff_mem (h : (es.map Prod.fst).Nodup) :
    lookup key es = some v ↔ (.string key, v) ∈ es := by
  refine ⟨lookup_mem, fun hmem => ?_⟩
  induction es with
  | nil => cases hmem
  | cons e es ih =>
    obtain ⟨k, w⟩ := e
    rw [List.map_cons, List.nodup_cons] at h
    rw [lookup]
    rcases List.mem_cons.1 hmem with he | hmem
    · cases he
      exact if_pos (isString_iff.2 rfl)
    · have hk : ¬ k.isString key = true := by
        intro hk
        exact h.1 (isString_iff.1 hk ▸ List.mem_map.2 ⟨_, hmem, rfl⟩)
      rw [if_neg hk]
      exact ih h.2 hmem

/-- The order of entries under distinct keys does not matter. -/
theorem lookup_perm (h : es.Perm fs) (hes : (es.map Prod.fst).Nodup) :
    lookup key es = lookup key fs := by
  have hkeys : (es.map Prod.fst).Perm (fs.map Prod.fst) := h.map Prod.fst
  cases hl : lookup key es with
  | some v =>
    have hmem := h.mem_iff.1 (lookup_mem hl)
    exact ((lookup_eq_some_iff_mem (hkeys.nodup_iff.1 hes)).2 hmem).symm
  | none =>
    have hnone := lookup_eq_none_iff.1 hl
    exact (lookup_eq_none_iff.2 fun hmem => hnone (hkeys.mem_iff.2 hmem)).symm

end Value

/-- The paths that the fields of a mapping pattern name: their keys, segment by segment. -/
def NamesPath (es : List (Value × Value)) (path : List String) : Prop :=
  ∃ k F, (.string k, F) ∈ es ∧ IsField k ∧ path = segments k

/-- Changes of a value that stay off the given paths.  An object at which one of the paths ends is
not changed: what is asked there may depend on all of it. -/
inductive Unnoticed : (List String → Prop) → Value → Value → Prop
  | refl {paths v} : Unnoticed paths v v
  | symm {paths v w} : Unnoticed paths v w → Unnoticed paths w v
  | trans {paths v u w} : Unnoticed paths v u → Unnoticed paths u w → Unnoticed paths v w
  /-- Another object with the same entries, of whatever form, that may also be called. -/
  | form {paths v w es} : ¬ paths [] → v.entries? = some es → w.entries? = some es →
      Unnoticed paths v w
  /-- The same entries in another order. -/
  | order {paths v w es fs} : ¬ paths [] → v.entries? = some es → w.entries? = some fs →
      es.Perm fs → (es.map Prod.fst).Nodup → Unnoticed paths v w
  /-- One entry more, under a key with which no path begins. -/
  | extra {paths v w} (es fs k x) : ¬ paths [] → v.entries? = some (es ++ fs) →
      w.entries? = some (es ++ (k, x) :: fs) →
      (∀ key rest, k = .string key → ¬ paths (key :: rest)) → Unnoticed paths v w
  /-- An entry that holds an absent value, where there was none. -/
  | absent {paths v w} (es fs k) : ¬ paths [] → v.entries? = some (es ++ fs) →
      w.entries? = some (es ++ (k, .missing) :: fs) → k ∉ (es ++ fs).map Prod.fst →
      Unnoticed paths v w
  /-- A change of the value under a key that stays off the rests of the paths through it. -/
  | inside {paths v w} (es fs key) {x y} : ¬ paths [] →
      v.entries? = some (es ++ (.string key, x) :: fs) →
      w.entries? = some (es ++ (.string key, y) :: fs) →
      Unnoticed (fun rest => paths (key :: rest)) x y → Unnoticed paths v w

section

variable {paths : List String → Prop} {v w : Value} {es fs : List (Value × Value)}

/-- Objects lead to the same places if what is under the first segment of each path does. -/
theorem walk_eq_of_entries (hnil : ¬ paths []) (hv : v.entries? = some es)
    (hw : w.entries? = some fs)
    (h : ∀ key rest, paths (key :: rest) →
      walk rest (Value.getD key es) = walk rest (Value.getD key fs)) :
    ∀ path, paths path → walk path v = walk path w := by
  intro path hpath
  cases path with
  | nil => exact absurd hpath hnil
  | cons key rest =>
    simp only [walk, hv, hw, h key rest hpath]

/-- What is under other keys does not depend on an entry. -/
theorem getD_of_ne {k x : Value} {key : String} (h : k ≠ .string key) :
    Value.getD key (es ++ (k, x) :: fs) = Value.getD key (es ++ fs) := by
  have hk : ¬ k.isString key = true := fun hk => h (Value.isString_iff.1 hk)
  rw [Value.getD, Value.getD, Value.lookup_append, Value.lookup_append, Value.lookup, if_neg hk]

/-- **Changes off the paths are not noticed** by walks along them. -/
theorem Unnoticed.walk_eq (h : Unnoticed paths v w) :
    ∀ path, paths path → walk path v = walk path w := by
  induction h with
  | refl => exact fun _ _ => rfl
  | symm _ ih => exact fun path hpath => (ih path hpath).symm
  | trans _ _ ih₁ ih₂ => exact fun path hpath => (ih₁ path hpath).trans (ih₂ path hpath)
  | form hnil hv hw => exact walk_eq_of_entries hnil hv hw fun _ _ _ => rfl
  | order hnil hv hw hperm hnodup =>
    refine walk_eq_of_entries hnil hv hw fun key rest _ => ?_
    rw [Value.getD, Value.getD, Value.lookup_perm hperm hnodup]
  | extra es fs k x hnil hv hw hk =>
    refine walk_eq_of_entries hnil hv hw fun key rest hpath => ?_
    rw [getD_of_ne fun h => hk key rest h hpath]
  | absent es fs k hnil hv hw hk =>
    refine walk_eq_of_entries hnil hv hw fun key rest _ => ?_
    by_cases hkey : k = .string key
    · subst hkey
      have hnone := Value.lookup_eq_none_iff.2 hk
      have hes : Value.lookup key es = none := by
        rw [Value.lookup_append, Option.or_eq_none_iff] at hnone
        exact hnone.1
      have hheld : Value.lookup key (es ++ (.string key, .missing) :: fs) = some .missing := by
        rw [Value.lookup_append, hes, Option.none_or, Value.lookup,
          if_pos (Value.isString_iff.2 rfl)]
      rw [Value.getD, Value.getD, hnone, hheld]
      rfl
    · rw [getD_of_ne hkey]
  | inside es fs k hnil hv hw _ ih =>
    refine walk_eq_of_entries hnil hv hw fun key rest hpath => ?_
    by_cases hkey : (.string k : Value) = .string key
    · cases hkey
      simp only [Value.getD, Value.lookup_append, Value.lookup, if_pos (Value.isString_iff.2 rfl)]
      cases Value.lookup k es with
      | some u => rfl
      | none => exact ih rest hpath
    · rw [getD_of_ne hkey, getD_of_ne hkey]

end

/-! ## Values that agree along the paths -/

section

variable {library : Option Library} {P v w : Value} {pes : List (Value × Value)}

/-- The keys of fields have at least one segment. -/
theorem not_namesPath_nil : ¬ NamesPath pes [] := by
  rintro ⟨k, F, -, -, h⟩
  exact segments_ne_nil k h.symm

theorem check_eq_of_walk_eq (hP : P.entries? = some pes)
    (htype : givenType pes = .string "object") (hchoice : givenChoice pes = none)
    (hok : (verification (.standardWith library) P).outcome none = .ok ())
    (hv : v.kind = .object) (hw : w.kind = .object)
    (h : ∀ path, NamesPath pes path → walk path v = walk path w) :
    check (.standardWith library) v P = check (.standardWith library) w P := by
  obtain ⟨es, hv⟩ := Option.isSome_iff_exists.1 (Value.kind_eq_object_iff.1 hv)
  obtain ⟨fs, hw⟩ := Option.isSome_iff_exists.1 (Value.kind_eq_object_iff.1 hw)
  obtain ⟨p, hp⟩ := verification_eq_ok_iff.1 hok
  obtain ⟨gs, hgs, rfl⟩ := fields_of_object_type hP htype hp
  rw [check_of_verify hp, check_of_verify hp, check_fields_of_object rfl hchoice hv,
    check_fields_of_object rfl hchoice hw]
  refine Pattern.checkFields_eq_of_walk_eq fun f hf => ?_
  obtain ⟨F, hF, hk, -⟩ := (Pattern.fieldsOf_spec hgs).2 f.1 f.2 hf
  exact h _ ⟨f.1, F, hF, hk, rfl⟩

end

/-- **Only the named paths matter.**  Against a verified pattern of an object without a choice, two
objects along which the keys of all fields lead to the same places are checked in the same run: the
library is shown the same values, and under every name the end is the same.  So are objects that
differ off the named paths: in entries of other keys, in the order of entries, in absent entries
that are spelled out, or in the form of the objects on the way. -/
theorem only_named_paths_matter (library : Option Library) (P : Value)
    (pes : List (Value × Value)) (hP : P.entries? = some pes)
    (htype : givenType pes = .string "object") (hchoice : givenChoice pes = none)
    (hok : (verification (.standardWith library) P).outcome none = .ok ()) (v w : Value)
    (hv : v.kind = .object) (hw : w.kind = .object) :
    ((∀ path, NamesPath pes path → SameAlong path v w) →
      check (.standardWith library) v P = check (.standardWith library) w P) ∧
    (Unnoticed (NamesPath pes) v w →
      check (.standardWith library) v P = check (.standardWith library) w P) := by
  have hsame : (∀ path, NamesPath pes path → walk path v = walk path w) →
      check (.standardWith library) v P = check (.standardWith library) w P :=
    check_eq_of_walk_eq hP htype hchoice hok hv hw
  exact ⟨fun h => hsame fun path hpath => sameAlong_iff.1 (h path hpath),
    fun h => hsame h.walk_eq⟩

/-- Fields whose keys begin alike, one of them below a text. -/
def accountFields : List (Value × Value) :=
  [(.string "owner", .string "object"), (.string "owner.name", .string "string"),
    (.string "limits.max", .string "optional number"),
    (.string "owner.name.first", .string "string")]

/-- The owner of an account. -/
def accountOwner : Value := .mapping .editable 1 [(.string "name", .string "Ada")]

/-- An account with an entry that no field names, and one that holds an absent value. -/
def account : Value :=
  .mapping .editable 2
    [(.string "owner", accountOwner), (.boolean true, .null),
      (.string "limits", .mapping .editable 3 [(.string "max", .missing)])]

/-- The account without these, in another order and form. -/
def bareAccount : Value :=
  .mapping .readOnly 4
    [(.string "limits", .callableMapping 5 [] .null), (.string "owner", accountOwner)]

theorem mem_of_namesPath_accountFields {path : List String} (h : NamesPath accountFields path) :
    path ∈ [["owner"], ["owner", "name"], ["limits", "max"], ["owner", "name", "first"]] := by
  obtain ⟨k, F, hmem, -, rfl⟩ := h
  simp only [accountFields, List.mem_cons, Prod.mk.injEq, Value.string.injEq, List.not_mem_nil,
    or_false] at hmem
  rcases hmem with ⟨rfl, -⟩ | ⟨rfl, -⟩ | ⟨rfl, -⟩ | ⟨rfl, -⟩ <;> decide +kernel

theorem account_unnoticed : Unnoticed (NamesPath accountFields) account bareAccount := by
  have hnil : ¬ NamesPath accountFields [] := not_namesPath_nil
  have hlimits : ¬ NamesPath accountFields ["limits"] :=
    fun h => by simpa using mem_of_namesPath_accountFields h
  let spelled := Value.mapping .editable 3 [(.string "max", .missing)]
  let empty := Value.mapping .editable 3 []
  -- below `limits`
  have hspelled : Unnoticed (fun rest => NamesPath accountFields ("limits" :: rest)) empty
      spelled := .absent [] [] (.string "max") hlimits rfl rfl (by simp)
  have hform : Unnoticed (fun rest => NamesPath accountFields ("limits" :: rest)) empty
      (.callableMapping 5 [] .null) := .form hlimits rfl rfl
  -- at the account itself
  have hextra : Unnoticed (NamesPath accountFields)
      (.mapping .editable 2 [(.string "owner", accountOwner), (.string "limits", spelled)])
      account :=
    .extra [(.string "owner", accountOwner)] [(.string "limits", spelled)] (.boolean true) .null
      hnil rfl rfl fun _ _ h => nomatch h
  have horder : Unnoticed (NamesPath accountFields)
      (.mapping .editable 2 [(.string "owner", accountOwner), (.string "limits", spelled)])
      (.mapping .readOnly 4 [(.string "limits", spelled), (.string "owner", accountOwner)]) :=
    .order hnil rfl rfl (.swap _ _ _) (by simp)
  have hinside : Unnoticed (NamesPath accountFields)
      (.mapping .readOnly 4 [(.string "limits", spelled), (.string "owner", accountOwner)])
      bareAccount :=
    .inside [] [(.string "owner", accountOwner)] "limits" hnil rfl rfl (hspelled.symm.trans hform)
  exact hextra.symm.trans (horder.trans hinside)

theorem accounts_checked_alike :
    (∀ path, NamesPath accountFields path → SameAlong path account bareAccount) ∧
      Unnoticed (NamesPath accountFields) account bareAccount ∧
      check (.standardWith none) account (.mapping .editable 6 accountFields) =
        check (.standardWith none) bareAccount (.mapping .editable 6 accountFields) := by
  have hsame : ∀ path, NamesPath accountFields path → SameAlong path account bareAccount := by
    intro path hpath
    rw [sameAlong_iff]
    have hmem := mem_of_namesPath_accountFields hpath
    simp only [List.mem_cons, List.not_mem_nil, or_false] at hmem
    rcases hmem with rfl | rfl | rfl | rfl <;> rfl
  exact ⟨hsame, account_unnoticed, (only_named_paths_matter none _ accountFields rfl rfl rfl
    (by decide +kernel) account bareAccount rfl rfl).1 hsame⟩

end DataShape
