import DataShape.StringPattern
import DataShape.Value.Equality

/-!
# Patterns

What a value is checked against, in one form for all ways of writing it. Reading a pattern finds
the faults that `verify`, `_verify_object` and `_resolve_type` report.

* `Level` — what is asked of a value itself: its type, whether it may be absent or null, or the
  values that it is allowed to be.
* `Pattern` — a level together with the patterns of the parts: the elements of an array, the
  contents of an observable, or named fields of an object.
* `Pattern.read` — the pattern that a value stands for: a string, a mapping with the keys of
  `Keyword`, or a string pattern built before. The first defect is reported with its place.
-/

namespace DataShape

/-- What a pattern asks of a value itself. Where there are allowed values, a value that is neither
absent nor null has to be one of them, whatever its type. -/
structure Level where
  type : Value
  isOptional : Bool
  isNullable : Bool
  allowed : Option (List Value)

/-- A pattern. -/
inductive Pattern where
  | leaf (level : Level)
  | elements (level : Level) (each : Pattern)
  | contents (level : Level) (inner : Pattern)
  /-- Dotted field keys with the patterns of what they lead to, in order. -/
  | fields (level : Level) (fields : List (String × Pattern))

namespace Keyword

/-- The type of the value. -/
def type : String := "__type"
/-- False when the value may be absent. -/
def required : String := "__required"
/-- True when the value may be null. -/
def nullable : String := "__nullable"
/-- The pattern of the elements of an array. -/
def elements : String := "__elements"
/-- The values that are allowed. -/
def allowedValues : String := "__allowedValues"
/-- The pattern of the contents of an observable. -/
def contents : String := "__value"

/-- The keys of a mapping pattern that are not fields. -/
def all : List String := [type, required, nullable, elements, allowedValues, contents]

/-- Whether a key is one of these. -/
def reserves : Value → Bool
  | .string s => all.contains s
  | _ => false

end Keyword

/-- The type of a mapping pattern that gives none. -/
def defaultType : String := "object"

namespace Pattern

/-- What a pattern asks of a value itself. -/
def level : Pattern → Level
  | .leaf l | .elements l _ | .contents l _ | .fields l _ => l

mutual

/-- Induction on patterns: a property of the parts carries over to the whole. -/
@[elab_as_elim]
theorem induct {motive : Pattern → Prop} (leaf : ∀ l, motive (.leaf l))
    (elements : ∀ l p, motive p → motive (.elements l p))
    (contents : ∀ l p, motive p → motive (.contents l p))
    (fields : ∀ l fs, (∀ f ∈ fs, motive f.2) → motive (.fields l fs)) : ∀ p, motive p
  | .leaf l => leaf l
  | .elements l p => elements l p (induct leaf elements contents fields p)
  | .contents l p => contents l p (induct leaf elements contents fields p)
  | .fields l fs => fields l fs (induct_fields leaf elements contents fields fs)

/-- Each pattern of a list of fields has the property. -/
theorem induct_fields {motive : Pattern → Prop} (leaf : ∀ l, motive (.leaf l))
    (elements : ∀ l p, motive p → motive (.elements l p))
    (contents : ∀ l p, motive p → motive (.contents l p))
    (fields : ∀ l fs, (∀ f ∈ fs, motive f.2) → motive (.fields l fs)) :
    ∀ fs : List (String × Pattern), ∀ f ∈ fs, motive f.2
  | [], _, h => absurd h List.not_mem_nil
  | (_, p) :: fs, f, h => by
    rcases List.mem_cons.1 h with rfl | h
    · exact induct leaf elements contents fields p
    · exact induct_fields leaf elements contents fields fs f h

end

/-! ## String patterns -/

/-- The level of a part of a string pattern. -/
def levelOf (type isOptional isNullable : Value) : Level :=
  ⟨type, isOptional.truthy, isNullable.truthy, none⟩

/-- The pattern of a hand-built string pattern. Its types are not looked up, and the contents of
anything but an array are read by calling it. -/
def ofPrebuilt : Value → Option Pattern
  | .prebuilt type isOptional isNullable within _ =>
    let level := levelOf type isOptional isNullable
    some (match ofPrebuilt within with
      | none => .leaf level
      | some p => if type.isString "array" then .elements level p else .contents level p)
  | _ => none

/-- The level of a parsed string pattern. -/
def ofHead (h : PatternHead) : Level := ⟨.string h.type, h.isOptional, h.isNullable, none⟩

/-- The pattern of a parsed string pattern. -/
def ofString : StringPattern → Pattern
  | .leaf h => .leaf (ofHead h)
  | .nest h p =>
    if h.type = "array" then .elements (ofHead h) (ofString p)
    else .contents (ofHead h) (ofString p)

/-! ## Mapping patterns -/

/-- An entry of a mapping pattern, with what its value stands for as a pattern. -/
structure Entry where
  key : Value
  value : Value
  pattern : Except Finding Pattern

/-- The entry under a keyword. -/
def entryAt (key : String) : List Entry → Option Entry
  | [] => none
  | e :: rest => if e.key.isString key then some e else entryAt key rest

/-- The type that a mapping pattern gives; one that counts as false is as good as none. -/
def typeOf (es : List Entry) : Value :=
  match entryAt Keyword.type es with
  | some e => if e.value.truthy then e.value else .string defaultType
  | none => .string defaultType

/-- The allowed values that a mapping pattern gives. -/
def allowedOf (es : List Entry) : Except Finding (Option (List Value)) :=
  match entryAt Keyword.allowedValues es with
  | none => .ok none
  | some e =>
    match e.value, e.value.members? with
    | .missing, _ => .ok none
    | _, some vs => .ok (some vs)
    | _, none => .error (.here .allowedNotArray)

/-- The pattern of the elements, which may not be null. -/
def elementsOf (es : List Entry) : Except Finding (Option Pattern) :=
  match entryAt Keyword.elements es with
  | none => .ok none
  | some e => (e.pattern.mapError (Finding.under .elements)).map some

/-- The pattern of the contents, which null leaves out. -/
def contentsOf (es : List Entry) : Except Finding (Option Pattern) :=
  match entryAt Keyword.contents es with
  | none => .ok none
  | some e =>
    match e.value with
    | .null => .ok none
    | _ => (e.pattern.mapError (Finding.under .call)).map some

/-- The fields of a mapping pattern: the entries that are not under a keyword. -/
def fieldsOf : List Entry → Except Finding (List (String × Pattern))
  | [] => .ok []
  | e :: rest =>
    if Keyword.reserves e.key then fieldsOf rest
    else match e.key with
      | .string key => do
        let p ← e.pattern.mapError (Finding.under (.field key))
        let ps ← fieldsOf rest
        return (key, p) :: ps
      | key => .error (.here (.keyNotString key))

/-- Whether a mapping pattern has exactly the given value under a keyword. -/
def holds (key : String) (test : Value → Bool) (es : List Entry) : Bool :=
  (entryAt key es).any fun e => test e.value

/-- The truth value false, and nothing that merely counts as false. -/
def isFalse : Value → Bool
  | .boolean b => !b
  | _ => false

/-- The truth value true, and nothing that merely counts as true. -/
def isTrue : Value → Bool
  | .boolean b => b
  | _ => false

/-- The pattern of a mapping. Elements and contents have to be patterns for every type, but fields
only for objects, and each counts only for its own type. -/
def ofEntries (T : TypeTable) (es : List Entry) : Except Finding Pattern := do
  let type ← (T.require (typeOf es)).mapError Finding.here
  let allowed ← allowedOf es
  let each ← elementsOf es
  let inner ← contentsOf es
  let level : Level :=
    ⟨.string type, holds Keyword.required isFalse es, holds Keyword.nullable isTrue es, allowed⟩
  if type = "object" then return .fields level (← fieldsOf es)
  else if type = "array" then return (each.map (.elements level)).getD (.leaf level)
  else if type = "observable" then return (inner.map (.contents level)).getD (.leaf level)
  else return .leaf level

/-! ## Reading -/

mutual

/-- The pattern that a value stands for, or its first defect: of a mapping its type, its allowed
values, its elements, its contents, and then its fields in order. -/
def read (T : TypeTable) : Value → Except Finding Pattern
  | .string s => ((StringPattern.parse T s).mapError Finding.nowhere).map ofString
  | .mapping _ _ entries => ofEntries T (readEntries T entries)
  | .callableMapping _ entries _ => ofEntries T (readEntries T entries)
  | v =>
    match ofPrebuilt v with
    | some p => .ok p
    | none => .error (.here (.notAPattern v))

/-- The entries of a mapping with what their values stand for. -/
def readEntries (T : TypeTable) : List (Value × Value) → List Entry
  | [] => []
  | (k, v) :: rest => ⟨k, v, read T v⟩ :: readEntries T rest

end

/-- The entry under a keyword is the one that the mapping holds, with its reading. -/
theorem entryAt_readEntries (T : TypeTable) (key : String) (es : List (Value × Value)) :
    entryAt key (readEntries T es) =
      (Value.lookup key es).map fun v => ⟨.string key, v, read T v⟩ := by
  induction es with
  | nil => rfl
  | cons e es ih =>
    obtain ⟨k, v⟩ := e
    simp only [readEntries, entryAt, Value.lookup]
    split
    · rename_i hk
      rw [Value.isString_iff.1 hk]
      rfl
    · exact ih

/-- A parsed pattern and the same pattern built by hand stand for the same. -/
theorem ofPrebuilt_toValue (p : StringPattern) : ofPrebuilt p.toValue = some (ofString p) := by
  induction p with
  | leaf h => simp [StringPattern.toValue, ofPrebuilt, ofString, levelOf, ofHead, Value.truthy]
  | nest h p ih =>
    simp [StringPattern.toValue, ofPrebuilt, ofString, levelOf, ofHead, Value.truthy, ih,
      Value.isString]

end Pattern

end DataShape
