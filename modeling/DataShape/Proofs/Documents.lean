import DataShape.Document.Load
import DataShape.Proofs.Reading
import DataShape.Value.Text

/-!
# Values of documents

What documents hold, as values: plain data in lists and editable mappings with string keys.

* `Value.isData` — whether a value is made of document data only.
* `parseDocument_eq_ok_iff` — a document is what its parser returns.
* `isData_toValueFrom`, `isData_of_loadDocument`, `isData_of_loadPattern` — what is loaded is.
* `Document.hasShortIntegers`, `isShowable_toValueFrom` — documents whose values can be written.
* `isWrittenOut_of_isData` — as a pattern it is made of texts and mappings.
-/

namespace DataShape

mutual

/-- Whether a value is made of document data: null, truth values, numbers, strings, dates, times,
and lists and editable mappings of such values, with strings as keys. -/
def Value.isData : Value → Bool
  | .null | .boolean _ | .integer _ | .float _ _ | .string _ => true
  | .date _ | .dateTime _ | .time _ => true
  | .sequence .list _ items => areData items
  | .mapping .editable _ es => entriesAreData es
  | _ => false

/-- Whether all members of a list are document data. -/
def Value.areData : List Value → Bool
  | [] => true
  | v :: vs => v.isData && areData vs

/-- Whether all entries of a mapping are document data under strings. -/
def Value.entriesAreData : List (Value × Value) → Bool
  | [] => true
  | (k, v) :: rest => (k.kind == .string) && v.isData && entriesAreData rest

end

namespace Value

variable {v : Value} {es : List (Value × Value)}

theorem isData_of_mem (hv : v.isData = true) (he : v.entries? = some es) {e : Value × Value}
    (h : e ∈ es) : e.2.isData = true := by
  have hes : entriesAreData es = true := by
    cases v with
    | mapping form id entries =>
      cases he
      cases form with
      | editable => exact hv
      | readOnly => cases hv
    | callableMapping => cases hv
    | _ => cases he
  clear hv he
  induction es with
  | nil => cases h
  | cons e' es ih =>
    obtain ⟨k, u⟩ := e'
    simp only [entriesAreData, Bool.and_eq_true] at hes
    rcases List.mem_cons.1 h with rfl | h
    · exact hes.1.2
    · exact ih h hes.2

theorem entries?_of_editableEntries? (h : v.editableEntries? = some es) : v.entries? = some es := by
  cases v with
  | mapping form =>
    cases form with
    | editable => exact h
    | readOnly => cases h
  | callableMapping => exact h
  | _ => cases h

/-- All mappings in documents are editable. -/
theorem editableEntries?_of_isData (hv : v.isData = true) : v.editableEntries? = v.entries? := by
  cases v with
  | mapping form id entries =>
    cases form with
    | editable => rfl
    | readOnly => cases hv
  | _ => rfl

theorem areWrittenOut_of_forall (h : ∀ e ∈ es, e.2.isWrittenOut = true) :
    areWrittenOut es = true := by
  induction es with
  | nil => rfl
  | cons e es ih =>
    obtain ⟨he, hes⟩ := List.forall_mem_cons.1 h
    simp only [areWrittenOut, he, ih hes, Bool.or_true, Bool.and_true]

/-- Documents hold no string patterns that were built by hand. -/
theorem isWrittenOut_of_isData (hv : v.isData = true) : v.isWrittenOut = true := by
  induction v using inductOnEntries with
  | entries P es he ih =>
    have hes : areWrittenOut es = true :=
      areWrittenOut_of_forall fun e h => ih e h (isData_of_mem hv he h)
    cases P <;> cases he <;> exact hes
  | other P he =>
    cases P with
    | prebuilt => cases hv
    | mapping | callableMapping => cases he
    | _ => rfl

end Value

/-! ## What is loaded -/

namespace Document

mutual

theorem isData_toValueFrom (shared : Bool) (n : Nat) :
    ∀ d : Document, (d.toValueFrom shared n).1.isData = true
  | .null | .boolean _ | .integer _ | .string _ | .date _ | .dateTime _ | .time _ => rfl
  | .float x => by
    rw [toValueFrom]
    split <;> rfl
  | .array items => areData_itemsFrom shared (n + 1) items
  | .table es => entriesAreData_entriesFrom shared (n + 1) es

theorem areData_itemsFrom (shared : Bool) (n : Nat) :
    ∀ items : List Document, Value.areData (itemsFrom shared n items).1 = true
  | [] => rfl
  | d :: ds => by
    simp only [itemsFrom, Value.areData, isData_toValueFrom shared n d,
      areData_itemsFrom shared _ ds, Bool.and_self]

theorem entriesAreData_entriesFrom (shared : Bool) (n : Nat) :
    ∀ es : List (String × Document), Value.entriesAreData (entriesFrom shared n es).1 = true
  | [] => rfl
  | (key, d) :: ds => by
    simp only [entriesFrom, Value.entriesAreData, isData_toValueFrom shared n d,
      entriesAreData_entriesFrom shared _ ds]
    rfl

end

end Document

namespace Document

mutual

/-- Whether no integer of a document has too many digits to be written in decimal. -/
def hasShortIntegers : Document → Bool
  | .integer n => Value.integerIsShowable n
  | .array items => areShort items
  | .table es => entriesAreShort es
  | _ => true

/-- Whether this is so of all items of an array. -/
def areShort : List Document → Bool
  | [] => true
  | d :: ds => d.hasShortIntegers && areShort ds

/-- Whether this is so of all entries of a table. -/
def entriesAreShort : List (String × Document) → Bool
  | [] => true
  | (_, d) :: rest => d.hasShortIntegers && entriesAreShort rest

end

mutual

/-- The value of a document can be written iff its integers can. -/
theorem isShowable_toValueFrom (shared : Bool) (n : Nat) :
    ∀ d : Document, (d.toValueFrom shared n).1.isShowable = d.hasShortIntegers
  | .null | .boolean _ | .integer _ | .string _ | .date _ | .dateTime _ | .time _ => rfl
  | .float x => by
    rw [toValueFrom]
    split <;> rfl
  | .array items => itemsAreShowable_itemsFrom shared (n + 1) items
  | .table es => entriesAreShowable_entriesFrom shared (n + 1) es

theorem itemsAreShowable_itemsFrom (shared : Bool) (n : Nat) :
    ∀ items : List Document,
      Value.itemsAreShowable (itemsFrom shared n items).1 = areShort items
  | [] => rfl
  | d :: ds => by
    simp only [itemsFrom, Value.itemsAreShowable, areShort, isShowable_toValueFrom shared n d,
      itemsAreShowable_itemsFrom shared _ ds]

theorem entriesAreShowable_entriesFrom (shared : Bool) (n : Nat) :
    ∀ es : List (String × Document),
      Value.entriesAreShowable (entriesFrom shared n es).1 = entriesAreShort es
  | [] => rfl
  | (key, d) :: ds => by
    simp only [entriesFrom, Value.entriesAreShowable, entriesAreShort,
      isShowable_toValueFrom shared n d, entriesAreShowable_entriesFrom shared _ ds]
    rfl

end

end Document

section

variable {parsers : Parsers} {read : Reader} {n m : Nat} {path : String} {v : Value}

theorem parseDocument_eq_ok_iff {text suffix : String} {r : Value × Nat} :
    parseDocument parsers n text suffix = .ok r ↔
      ∃ format d, Format.ofSuffix? suffix = some format ∧ parsers format text = .ok d ∧
        d.toValueFrom format.sharesNan n = r := by
  unfold parseDocument
  cases Format.ofSuffix? suffix with
  | none => simp
  | some format =>
    cases hd : parsers format text with
    | ok d => simp [hd]
    | error fault => cases fault <;> simp [hd]

theorem isData_of_loadDocument (h : loadDocument parsers read n path = .ok (v, m)) :
    v.isData = true := by
  obtain ⟨text, -, h⟩ := bind_eq_ok_iff.1 h
  obtain ⟨format, d, -, -, hd⟩ := parseDocument_eq_ok_iff.1 h
  have hdata := Document.isData_toValueFrom format.sharesNan n d
  rw [hd] at hdata
  exact hdata

theorem isData_patternOf (hv : v.isData = true) : (patternOf v).isData = true := by
  unfold patternOf
  rw [Value.editableEntries?_of_isData hv]
  cases he : v.entries? with
  | none => exact hv
  | some es =>
    simp only
    cases hP : Value.lookup patternKey es with
    | none => exact hv
    | some P => exact Value.isData_of_mem hv he (Value.lookup_mem hP)

theorem isData_of_loadPattern (h : loadPattern parsers read n path = .ok (v, m)) :
    v.isData = true := by
  obtain ⟨⟨document, m'⟩, hd, h⟩ := map_eq_ok_iff.1 h
  cases h
  exact isData_patternOf (isData_of_loadDocument hd)

end

end DataShape
