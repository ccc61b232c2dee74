import DataShape.Text.Words
import DataShape.TypeTable

/-!
# String patterns

Patterns written as text, such as `optional array nullable string`. Model of `StringPattern`,
`parse_string_pattern` and `_parse_tokens`:

* `StringPattern` — the levels of such a pattern: one type, or a type whose contents have a
  pattern of their own.
* `StringPattern.parseWords` — `_parse_tokens`: at each level modifiers in any order, then a known
  type; after `array` and `observable` a further level may follow.
* `StringPattern.parse` — `parse_string_pattern`: the pattern that a text spells.
* `StringPattern.toValue` — the pattern as a value.
-/

namespace DataShape

/-- One level of a string pattern: its type, its modifiers, and its words from the type on. -/
structure PatternHead where
  type : String
  isOptional : Bool
  isNullable : Bool
  source : String
  deriving DecidableEq, Repr

/-- A string pattern. -/
inductive StringPattern where
  | leaf (head : PatternHead)
  | nest (head : PatternHead) (contents : StringPattern)
  deriving DecidableEq, Repr

/-- The word that lets a value be absent. -/
def optionalWord : String := "optional"

/-- The word that lets a value be null. -/
def nullableWord : String := "nullable"

/-- The types whose contents may have a pattern. -/
def nestingTypes : List String := ["array", "observable"]

namespace StringPattern

/-- The outermost level. -/
def head : StringPattern → PatternHead
  | .leaf h => h
  | .nest h _ => h

/-- Reads a level whose text is `source`, with the modifiers found so far. -/
def parseWords (T : TypeTable) (source : String) (isOptional isNullable : Bool) :
    List String → Except Defect StringPattern
  | [] => .error (.malformed source)
  | w :: rest =>
    if w = optionalWord then parseWords T source true isNullable rest
    else if w = nullableWord then parseWords T source isOptional true rest
    else if !T.knows w then .error (.unknownType (.string w))
    else
      let head : PatternHead := ⟨w, isOptional, isNullable, unwords (w :: rest)⟩
      if rest = [] then .ok (.leaf head)
      else if w ∉ nestingTypes then .error (.malformed source)
      else (parseWords T (unwords rest) false false rest).map (.nest head)

/-- The pattern that a text spells. -/
def parse (T : TypeTable) (text : String) : Except Defect StringPattern :=
  parseWords T text false false (words text)

/-- A string pattern as a value. -/
def toValue : StringPattern → Value
  | .leaf h =>
    .prebuilt (.string h.type) (.boolean h.isOptional) (.boolean h.isNullable) .null h.source
  | .nest h p =>
    .prebuilt (.string h.type) (.boolean h.isOptional) (.boolean h.isNullable) p.toValue h.source

end StringPattern

end DataShape
