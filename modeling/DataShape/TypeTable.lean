import DataShape.Library
import DataShape.Run

/-!
# Type tables

The names that patterns may use for types, each with its checker. Model of `TypeRegistry` with
`require`, `check_type` and `with_observable_lib`, of `DEFAULT_CHECKERS` and of the checkers:

* `Checker`, `Checker.run` — a test of one value, without looking at its parts: `simple_checker`,
  `check_array`, `check_date`, `check_function` and `observable_checker`.
* `TypeTable` — names with checkers; `TypeTable.standard` holds the eight default types.
* `TypeTable.withLibrary` — the table in which a library tells observables;
  `TypeTable.standardWith` — the default types with a library or without one.
* `TypeTable.require`, `TypeTable.check` — look-up with an error, and the test of a value.
-/

namespace DataShape

/-- A test of one value. -/
inductive Checker where
  | ofKind (kind : Kind)
  /-- Anything that can be called, containers included. -/
  | callable
  /-- Observables; without a library they cannot be told. -/
  | observable (library : Option Library)

namespace Checker

/-- Tests a value. A library sees each value that it can be asked about. -/
def run : Checker → Value → Run
  | .ofKind kind, v => .require (v.kind == kind) (.notOfKind kind)
  | .callable, v => .require v.isCallable (.notOfKind .function)
  | .observable none, _ => .fail (.defect (.here .noLibrary))
  | .observable (some library), v =>
    match library.recognise v with
    | .yes => ⟨[.shown v], .ok ()⟩
    | .no => ⟨[.shown v], .error (.mismatch .notObservable [])⟩
    | .raised message => ⟨[.shown v], .error (.raised message)⟩
    | .misused m => .fail (.misuse m)

/-- The checkers of the default types, by name. -/
def ofName? : String → Option Checker
  | "array" => some (.ofKind .array)
  | "boolean" => some (.ofKind .boolean)
  | "date" => some (.ofKind .date)
  | "function" => some .callable
  | "number" => some (.ofKind .number)
  | "object" => some (.ofKind .object)
  | "observable" => some (.observable none)
  | "string" => some (.ofKind .string)
  | _ => none

end Checker

/-- The known types: names with checkers. -/
structure TypeTable where
  entries : List (String × Checker)

namespace TypeTable

/-- The eight default types, without a library. -/
def standard : TypeTable :=
  ⟨[("array", .ofKind .array), ("boolean", .ofKind .boolean), ("date", .ofKind .date),
    ("function", .callable), ("number", .ofKind .number), ("object", .ofKind .object),
    ("observable", .observable none), ("string", .ofKind .string)]⟩

/-- The checker of a type. -/
def find? (T : TypeTable) (name : String) : Option Checker := T.entries.lookup name

/-- Whether a name is one of a type. -/
def knows (T : TypeTable) (name : String) : Bool := (T.find? name).isSome

/-- Sets the checker of a name. -/
def set (name : String) (c : Checker) : List (String × Checker) → List (String × Checker)
  | [] => [(name, c)]
  | (n, d) :: rest => if n = name then (n, c) :: rest else (n, d) :: set name c rest

/-- The table of the given names, each for a default type; pairs without one are left out. -/
def ofNames (pairs : List (String × String)) : TypeTable :=
  ⟨pairs.foldl (fun acc (name, type) =>
    match Checker.ofName? type with
    | some c => set name c acc
    | none => acc) []⟩

/-- The table in which `observable` is told by a library. -/
def withLibrary (T : TypeTable) (library : Library) : TypeTable :=
  ⟨set "observable" (.observable (some library)) T.entries⟩

/-- The eight default types, where a library may tell observables. -/
def standardWith (library : Option Library) : TypeTable :=
  library.elim standard standard.withLibrary

/-- The library that tells observables. -/
def library? (T : TypeTable) : Option Library :=
  match T.find? "observable" with
  | some (.observable library) => library
  | _ => none

/-- The names of the types in ascending order. -/
def names (T : TypeTable) : List String := (T.entries.map Prod.fst).mergeSort fun a b => a ≤ b

/-- The checker of what a pattern gives as its type; only a known string is one. -/
def checker? (T : TypeTable) : Value → Option Checker
  | .string name => T.find? name
  | _ => none

/-- The name of a type, if it is known. -/
def require (T : TypeTable) (type : Value) : Except Defect String :=
  match type with
  | .string name => if T.knows name then .ok name else .error (.unknownType type)
  | _ => .error (.unknownType type)

/-- Tests a value against a type. -/
def check (T : TypeTable) (v type : Value) : Run :=
  match T.checker? type with
  | some c => c.run v
  | none => .fail (.defect (.here (.unknownType type)))

/-! ## Look-up after a change -/

theorem lookup_set (name n : String) (c : Checker) (es : List (String × Checker)) :
    (set name c es).lookup n = if n = name then some c else es.lookup n := by
  induction es with
  | nil => by_cases h : n = name <;> simp [set, List.lookup_cons, h, beq_false_of_ne]
  | cons e es ih =>
    obtain ⟨m, d⟩ := e
    by_cases hm : m = name
    · subst hm
      by_cases h : n = m <;> simp [set, List.lookup_cons, h, beq_false_of_ne]
    · by_cases h : n = m
      · subst h; simp [set, hm]
      · simp [set, hm, List.lookup_cons, h, beq_false_of_ne, ih]

theorem find?_withLibrary (T : TypeTable) (library : Library) (n : String) :
    (T.withLibrary library).find? n =
      if n = "observable" then some (.observable (some library)) else T.find? n :=
  lookup_set _ _ _ _

theorem find?_standard (type : String) : standard.find? type = Checker.ofName? type := by
  unfold find? standard Checker.ofName?
  split
  case h_9 => simp_all [List.lookup_cons, beq_false_of_ne]
  all_goals rfl

theorem find?_standardWith (library : Option Library) (type : String) :
    (standardWith library).find? type =
      if type = "observable" then some (.observable library) else Checker.ofName? type := by
  cases library with
  | none =>
    by_cases h : type = "observable"
    · subst h; rfl
    · simp [standardWith, find?_standard, h]
  | some l => simp [standardWith, find?_withLibrary, find?_standard]

end TypeTable

end DataShape
