import DataShape.Document.Load

/-!
# Parts of selected parts

A dotted key leads through the tables of a document, one segment after the other.

* `Lacks` — whether a key finds nothing in a value.
* `Reaches` — where segments lead, each of them to a value that is there.
* `IsLost` — whether they come to a value that lacks the next segment.
* `follow_of_reaches`, `follow_of_isLost`, `reaches_or_isLost` — every way is of one of these kinds,
  and how each ends.
* `selections_compose` — **selecting from a selected part is selecting by both keys at once**, and a
  selection is absent exactly where its way is lost.
-/

namespace DataShape

/-- Whether a key finds nothing in a value: it is no table, or a table without an entry under the
key, or with an absent value there. -/
def Lacks (v : Value) (key : String) : Prop :=
  v.editableEntries? = none ∨ ∃ es, v.editableEntries? = some es ∧
    (Value.lookup key es = none ∨ Value.lookup key es = some .missing)

/-- What segments lead to from a value: each of them is a key of the table that is reached by then,
with a value that is not absent. -/
inductive Reaches : List String → Value → Value → Prop
  | here (v) : Reaches [] v v
  | under {key keys v es w u} : v.editableEntries? = some es → Value.lookup key es = some w →
      w ≠ .missing → Reaches keys w u → Reaches (key :: keys) v u

/-- Whether the way of some segments is lost: those before one of them reach a value that lacks
it. -/
def IsLost (keys : List String) (v : Value) : Prop :=
  ∃ before key after u, keys = before ++ key :: after ∧ Reaches before v u ∧ Lacks u key

section

variable {key : String} {keys : List String} {v u : Value} {es : List (Value × Value)}

theorem lacks_or_holds (v : Value) (key : String) :
    Lacks v key ∨
      ∃ es w, v.editableEntries? = some es ∧ Value.lookup key es = some w ∧ w ≠ .missing := by
  cases hv : v.editableEntries? with
  | none => exact .inl (.inl hv)
  | some es =>
    cases hw : Value.lookup key es with
    | none => exact .inl (.inr ⟨es, hv, .inl hw⟩)
    | some w =>
      by_cases hm : w = .missing
      · subst hm
        exact .inl (.inr ⟨es, hv, .inr hw⟩)
      · exact .inr ⟨es, w, rfl, hw, hm⟩

theorem follow_of_lacks (h : Lacks v key) (keys : List String) :
    follow (key :: keys) v = .missing := by
  obtain hv | ⟨es, hv, hkey⟩ := h
  · rw [follow, hv]
  · have habsent : Value.getD key es = .missing := by
      obtain hkey | hkey := hkey
      · rw [Value.getD, hkey]
        rfl
      · rw [Value.getD, hkey]
        rfl
    rw [follow, hv]
    show follow keys (Value.getD key es) = .missing
    rw [habsent]
    cases keys with
    | nil => rfl
    | cons k keys => exact follow_missing (List.cons_ne_nil k keys)

/-- Following segments that reach a value finds it. -/
theorem follow_of_reaches (h : Reaches keys v u) : follow keys v = u := by
  induction h with
  | here v => rfl
  | @under key keys v es w u hv hw _ _ ih =>
    have hheld : Value.getD key es = w := by
      rw [Value.getD, hw]
      rfl
    rw [follow, hv]
    show follow keys (Value.getD key es) = u
    rw [hheld, ih]

/-- Following segments whose way is lost finds nothing, however many of them are left. -/
theorem follow_of_isLost (h : IsLost keys v) : follow keys v = .missing := by
  obtain ⟨before, key, after, u, rfl, hu, hlacks⟩ := h
  rw [follow_append _ _ _ (List.cons_ne_nil key after), follow_of_reaches hu,
    follow_of_lacks hlacks]

/-- Segments reach a value, or their way is lost. -/
theorem reaches_or_isLost (keys : List String) (v : Value) :
    (∃ u, Reaches keys v u) ∨ IsLost keys v := by
  induction keys generalizing v with
  | nil => exact .inl ⟨v, .here v⟩
  | cons key keys ih =>
    obtain hlacks | ⟨es, w, hv, hw, hm⟩ := lacks_or_holds v key
    · exact .inr ⟨[], key, keys, v, rfl, .here v, hlacks⟩
    obtain ⟨u, hu⟩ | ⟨before, k, after, u, rfl, hu, hlacks⟩ := ih w
    · exact .inl ⟨u, .under hv hw hm hu⟩
    · exact .inr ⟨key :: before, k, after, u, rfl, .under hv hw hm hu, hlacks⟩

/-- What is reached by a segment or more is there. -/
theorem Reaches.ne_missing (h : Reaches keys v u) (hkeys : keys ≠ []) : u ≠ .missing := by
  induction h with
  | here v => exact absurd rfl hkeys
  | @under key keys v es w u _ _ hm hu ih =>
    cases keys with
    | nil =>
      cases hu
      exact hm
    | cons k keys => exact ih (List.cons_ne_nil k keys)

theorem follow_eq_missing_iff (hkeys : keys ≠ []) : follow keys v = .missing ↔ IsLost keys v := by
  constructor
  · intro h
    obtain ⟨u, hu⟩ | hlost := reaches_or_isLost keys v
    · have hmissing : u = .missing := (follow_of_reaches hu).symm.trans h
      exact absurd hmissing (hu.ne_missing hkeys)
    · exact hlost
  · exact follow_of_isLost

theorem follow_eq_iff_reaches (hu : u ≠ .missing) : follow keys v = u ↔ Reaches keys v u := by
  constructor
  · intro h
    obtain ⟨w, hw⟩ | hlost := reaches_or_isLost keys v
    · have hsame : w = u := (follow_of_reaches hw).symm.trans h
      exact hsame ▸ hw
    · have hmissing : u = .missing := h.symm.trans (follow_of_isLost hlost)
      exact absurd hmissing hu
  · exact follow_of_reaches

/-- A key that is not empty is followed. -/
theorem select_of_ne_empty (hkey : key ≠ "") (document : Value) :
    select document (some key) = follow (segments key) document := by
  unfold select
  split
  · contradiction
  · rename_i h
    exact absurd (Option.some.inj h) hkey
  · rename_i h
    rw [Option.some.inj h]

end

/-- **Selections compose.**  Selecting by a key from the part under another key is selecting by both
keys with a dot between them, however many empty segments they have.  Under a key that is not empty
the selection is absent iff the way is lost at some segment: there it comes to a value that is no
table, or to a table with nothing or an absent value under the segment.  In all other cases it is
the value that the segments reach, a null at the end like any other value. -/
theorem selections_compose (document : Value) :
    (∀ k l, k ≠ "" → l ≠ "" →
      select (select document (some k)) (some l) = select document (some (k ++ "." ++ l))) ∧
    ∀ key, key ≠ "" →
      (select document (some key) = .missing ↔ IsLost (segments key) document) ∧
      ∀ u, u ≠ .missing →
        (select document (some key) = u ↔ Reaches (segments key) document u) := by
  refine ⟨fun k l hk hl => ?_, fun key hkey => ?_⟩
  · have hjoined : k ++ "." ++ l ≠ "" := by
      intro h
      have hlist := congrArg String.toList h
      simp at hlist
    rw [select_of_ne_empty hk, select_of_ne_empty hl, select_of_ne_empty hjoined, segments_append,
      follow_append _ _ _ (segments_ne_nil l)]
  · rw [select_of_ne_empty hkey]
    exact ⟨follow_eq_missing_iff (segments_ne_nil key), fun u hu => follow_eq_iff_reaches hu⟩

/-- A document with empty keys, a null and an absent value. -/
def nestedDocument : Value :=
  .mapping .editable 2
    [(.string "", .mapping .editable 3
      [(.string "a", .mapping .editable 4
        [(.string "", .mapping .editable 5 [(.string "", .null), (.string "b", .missing)])])])]

theorem null_selected_below_empty_segments :
    select nestedDocument (some ".a.") =
        .mapping .editable 5 [(.string "", .null), (.string "b", .missing)] ∧
      select (select nestedDocument (some ".a")) (some ".") =
        select nestedDocument (some ".a..") ∧
      select nestedDocument (some ".a..") = .null ∧
      IsLost (segments ".a..b") nestedDocument ∧ IsLost (segments ".a...c") nestedDocument := by
  obtain ⟨hcompose, hkeys⟩ := selections_compose nestedDocument
  obtain ⟨-, hpart⟩ := hkeys ".a." (by decide)
  obtain ⟨-, hnull⟩ := hkeys ".a.." (by decide)
  obtain ⟨hstored, -⟩ := hkeys ".a..b" (by decide)
  obtain ⟨hbelow, -⟩ := hkeys ".a...c" (by decide)
  have htable : Reaches (segments ".a.") nestedDocument
      (.mapping .editable 5 [(.string "", .null), (.string "b", .missing)]) :=
    .under rfl rfl (by simp) (.under rfl rfl (by simp) (.under rfl rfl (by simp) (.here _)))
  have hend : Reaches (segments ".a..") nestedDocument .null :=
    .under rfl rfl (by simp) (.under rfl rfl (by simp) (.under rfl rfl (by simp)
      (.under rfl rfl (by simp) (.here _))))
  exact ⟨(hpart _ (by simp)).2 htable, hcompose ".a" "." (by decide) (by decide),
    (hnull _ (by simp)).2 hend, hstored.1 rfl, hbelow.1 rfl⟩

end DataShape
