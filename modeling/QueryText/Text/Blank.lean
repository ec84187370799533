import QueryText.Text.CodeSpan

/-!
# Blank text

The Unicode property White_Space.
-/

set_option autoImplicit false

namespace QueryText.Text

/-- The characters with the property White_Space. -/
def blankSpans : List CodeSpan :=
  [⟨0x9, 0xD, 1⟩, ⟨0x20, 0x20, 1⟩, ⟨0x85, 0x85, 1⟩, ⟨0xA0, 0xA0, 1⟩, ⟨0x1680, 0x1680, 1⟩,
   ⟨0x2000, 0x200A, 1⟩, ⟨0x2028, 0x2029, 1⟩, ⟨0x202F, 0x202F, 1⟩, ⟨0x205F, 0x205F, 1⟩,
   ⟨0x3000, 0x3000, 1⟩]

/-- A character that shows as empty space. The zero width space and the byte order mark do not
belong to the class. -/
def isBlank (character : Char) : Bool :=
  CodeSpan.anyContains blankSpans character

/-- A text of blanks only; the empty text is one. -/
def isBlankText (text : String) : Bool :=
  text.toList.all isBlank

end QueryText.Text
