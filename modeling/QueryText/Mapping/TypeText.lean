import QueryText.Mapping.Grammar.Item
import QueryText.Mapping.Grammar.Statement

/-!
# Texts of field types

The text of a field's type is made of its lexemes in standard form without the spaces.
-/

set_option autoImplicit false

namespace QueryText.Mapping

open Grammar

def Part.rewriteWith (rules : Rules) : Part → Rewriter Unit
  | type sums => typeForm rules sums
  | bound => Grammar.bound rules
  | pattern => Grammar.pattern rules
  | alternatives => Grammar.alternatives rules
  | expression records => Grammar.expression rules records
  | operand records => Grammar.operand rules records
  | standalone => Grammar.standalone rules
  | block => Grammar.block rules
  | item => Grammar.item rules

/-- Rewrite a part that holds other parts to a depth of `fuel` at most. -/
def Part.rewrite : Nat → Part → Rewriter Unit
  | 0, _ => failure
  | fuel + 1, part => part.rewriteWith (rewrite fuel)

/-- The lexemes of a type in standard form. Lexemes that are no type stay as they are. Of the parts
that hold each other fewer than eight begin with the same lexeme, so the fuel suffices. -/
def standardType (lexemes : List Lexeme) : List Lexeme :=
  match (Part.rewrite (8 * lexemes.length + 8) (.type true)).run ⟨lexemes, []⟩ with
  | some (_, { ahead := [], written }) => written
  | _ => lexemes

def TypeText.ofSource (source : String) : String :=
  Lexeme.joined (standardType (Lexeme.scan source))

end QueryText.Mapping
