/-!
# Spans of character codes

A character class is a list of spans. The case of many alphabets alternates from one code to the
next, so a span has a step.
-/

set_option autoImplicit false

namespace QueryText.Text

/-- The codes `first`, `first + step`, and so on up to `last`. -/
structure CodeSpan where
  first : Nat
  last : Nat
  step : Nat

namespace CodeSpan

def contains (span : CodeSpan) (character : Char) : Bool :=
  span.first ≤ character.toNat && character.toNat ≤ span.last &&
    (character.toNat - span.first) % span.step == 0

def anyContains (spans : List CodeSpan) (character : Char) : Bool :=
  spans.any fun span => span.contains character

end CodeSpan

end QueryText.Text
