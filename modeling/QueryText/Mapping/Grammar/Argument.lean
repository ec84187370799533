import QueryText.Mapping.Rewriter

/-!
# Order of arguments

Arguments and parameters between angle brackets have a standard order: lifetimes go before all
others, and each group keeps its own order.
-/

set_option autoImplicit false

namespace QueryText.Mapping

/-- An argument or a parameter between angle brackets, and whether a comma follows it. -/
structure Argument where
  lexemes : List Lexeme
  isLifetime : Bool
  comma : Bool
  deriving DecidableEq

namespace Argument

def ordered (arguments : List Argument) : List Argument :=
  arguments.filter isLifetime ++ arguments.filter fun argument => !argument.isLifetime

/-- The lexemes of several arguments. Commas separate them, and the last one keeps its own. -/
def written : List Argument → List Lexeme
  | [] => []
  | [argument] => argument.lexemes ++ if argument.comma then [.punctuation ','] else []
  | argument :: next :: rest => argument.lexemes ++ .punctuation ',' :: written (next :: rest)

/-- The lexemes of several arguments in standard order and in angle brackets. -/
def bracketed (arguments : List Argument) : List Lexeme :=
  .punctuation '<' :: written (ordered arguments) ++ [.punctuation '>']

open Rewriter

/-- Read arguments up to the bracket that closes them, in at most `fuel` steps. The element answers
whether it is a lifetime. -/
def readUpTo (element : Rewriter Bool) : Nat → Rewriter (List Argument)
  | 0 => failure
  | fuel + 1 => do
    if ← sees (View.mark ">") then return []
    let (isLifetime, lexemes) ← aside element
    if ← sees (View.mark ",") then
      discard (take 1)
      return ⟨lexemes, isLifetime, true⟩ :: (← readUpTo element fuel)
    return [⟨lexemes, isLifetime, false⟩]

def readAll (element : Rewriter Bool) : Rewriter (List Argument) := do
  guard (← sees (View.mark "<"))
  discard (take 1)
  let draft ← get
  let arguments ← readUpTo element (draft.ahead.length + 1)
  guard (← sees (View.mark ">"))
  discard (take 1)
  return arguments

end Argument

end QueryText.Mapping
