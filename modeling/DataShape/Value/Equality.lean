import DataShape.Value

/-!
# Identity and equality of values

* `Value.isObject` — whether two values are one and the same object.
* `Value.eqv` — equality by content; functions, classes, libraries and plain objects have none and
  equal only themselves.
* `Value.admits` — when an allowed value admits a value: it is the same object, or an equal value of
  the same kind that is not a container.
* `Value.canBeKey` — whether a value can be a key.
* `Entries.insert`, `Entries.ofList?` — mappings with one entry for each key up to equality.
* `Entries.distinct?` — the elements of a set, in order.
-/

namespace DataShape

namespace Value

/-- Whether two values are one object. Values without an identity of their own are never reported
here: equality settles them. There is only one empty tuple. -/
def isObject : Value → Value → Bool
  | .float i _, .float j _ => i == j
  | .sequence .tuple _ [], .sequence .tuple _ [] => true
  | .sequence _ i _, .sequence _ j _ => i == j
  | .mapping _ i _, .mapping _ j _ => i == j
  | .plain i _, .plain j _ => i == j
  | .function i _, .function j _ => i == j
  | .observable i _, .observable j _ => i == j
  | .faulty i _, .faulty j _ => i == j
  | .factory i _, .factory j _ => i == j
  | .callableSequence i _ _, .callableSequence j _ _ => i == j
  | .callableMapping i _ _, .callableMapping j _ _ => i == j
  | .library i _, .library j _ => i == j
  | _, _ => false

/-- The form and the members of an array. -/
def array? : Value → Option (SequenceForm × List Value)
  | .sequence form _ items => some (form, items)
  | .callableSequence _ items _ => some (.list, items)
  | _ => none

/-- The number that a number or a truth value stands for. -/
inductive Number where
  | whole (n : Int)
  | double (x : Binary64)

/-- Equality of numbers as exact values. -/
def Number.eqv : Number → Number → Bool
  | .whole m, .whole n => m == n
  | .whole m, .double y => y.eqvInt m
  | .double x, .whole n => x.eqvInt n
  | .double x, .double y => x.eqv y

/-- The number of a value; true counts as one and false as zero. -/
def number? : Value → Option Number
  | .boolean b => some (.whole (if b then 1 else 0))
  | .integer n => some (.whole n)
  | .float _ x => some (.double x)
  | _ => none

mutual

/-- Equality by content. Members of containers may also be the same object. -/
def eqv : Value → Value → Bool
  | .missing, w => w.kind == .missing
  | .null, w => w.kind == .null
  | .boolean b, w => w.number?.any (Number.eqv (.whole (if b then 1 else 0)))
  | .integer n, w => w.number?.any (Number.eqv (.whole n))
  | .float _ x, w => w.number?.any (Number.eqv (.double x))
  | .string s, w => w.isString s
  | .sequence form _ items, w => w.array?.any fun (f, ys) => f == form && eqvItems items ys
  | .callableSequence _ items _, w => w.array?.any fun (f, ys) => f == .list && eqvItems items ys
  | .mapping _ _ entries, w | .callableMapping _ entries _, w =>
    w.entries?.any fun es => es.length == entries.length && eqvEntries entries es
  | .date d, .date e => d == e
  | .dateTime t, .dateTime u => t.eqv u
  | .time t, .time u => t.eqv u
  | .bytes bs, .bytes cs => bs == cs
  | .set items, .set ys => ys.length == items.length && eqvElements items ys
  | .prebuilt t o n c s, .prebuilt t' o' n' c' s' =>
    (t.isObject t' || eqv t t') && (o.isObject o' || eqv o o') && (n.isObject n' || eqv n n') &&
      (c.isObject c' || eqv c c') && s == s'
  | v, w => v.isObject w

/-- Members are equal place by place. -/
def eqvItems : List Value → List Value → Bool
  | [], [] => true
  | x :: xs, y :: ys => (x.isObject y || eqv x y) && eqvItems xs ys
  | _, _ => false

/-- Each entry has an equal one. -/
def eqvEntries : List (Value × Value) → List (Value × Value) → Bool
  | [], _ => true
  | (k, x) :: rest, es =>
    (es.any fun (l, y) => (k.isObject l || eqv k l) && (x.isObject y || eqv x y)) &&
      eqvEntries rest es

/-- Each element has an equal one. -/
def eqvElements : List Value → List Value → Bool
  | [], _ => true
  | x :: xs, ys => (ys.any fun y => x.isObject y || eqv x y) && eqvElements xs ys

end

mutual

/-- Whether a value can be a key of a mapping or an element of a set. What can be changed cannot,
nor can what holds it. -/
def canBeKey : Value → Bool
  | .sequence .tuple _ items => allCanBeKeys items
  | .sequence .list _ _ | .callableSequence _ _ _ | .mapping _ _ _ | .callableMapping _ _ _
  | .set _ => false
  | .prebuilt t o n c _ => t.canBeKey && o.canBeKey && n.canBeKey && c.canBeKey
  | _ => true

/-- Whether all members of a tuple can be keys. -/
def allCanBeKeys : List Value → Bool
  | [] => true
  | x :: xs => x.canBeKey && allCanBeKeys xs

end

/-- Whether an allowed value admits a value. -/
def admits (allowed v : Value) : Bool :=
  allowed.kind == v.kind && (allowed.isObject v || (!v.kind.isContainer && eqv allowed v))

end Value

namespace Entries

/-- Sets an entry: an equal key keeps its place and its first form. -/
def insert (k v : Value) : List (Value × Value) → List (Value × Value)
  | [] => [(k, v)]
  | (l, w) :: rest =>
    if l.isObject k || l.eqv k then (l, v) :: rest else (l, w) :: insert k v rest

/-- The entries of a mapping, from entries in which keys may repeat. -/
def ofList (es : List (Value × Value)) : List (Value × Value) :=
  es.foldl (fun acc (k, v) => insert k v acc) []

/-- The entries of a mapping, if the keys can be keys. -/
def ofList? (es : List (Value × Value)) : Option (List (Value × Value)) :=
  if es.all fun (k, _) => k.canBeKey then some (ofList es) else none

/-- The whole number that an integer or a truth value stands for. -/
def whole? : Value → Option Int
  | .boolean b => some (if b then 1 else 0)
  | .integer n => some n
  | _ => none

/-- The order in which a set runs through its elements: whole numbers ascend, and sets with other
elements keep the order in which these were given. -/
def inOrder (xs : List Value) : List Value :=
  if xs.all fun x => (whole? x).isSome then
    xs.mergeSort fun x y => (whole? x).getD 0 ≤ (whole? y).getD 0
  else xs

/-- The elements of a set in order, from elements that may repeat, if they can be elements. -/
def distinct? (xs : List Value) : Option (List Value) :=
  (ofList? (xs.map fun x => (x, x))).map fun es => inOrder (es.map Prod.fst)

end Entries

end DataShape
