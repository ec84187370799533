import QueryText.Mapping.View

/-!
# Rewriting lexemes

A rewriter reads lexemes from the front of a draft and writes them, for the most part unchanged, to
its end. It fails where the lexemes are not what it is about.
-/

set_option autoImplicit false

namespace QueryText.Mapping

/-- Lexemes on the way: those still to be read and those written. -/
structure Draft where
  ahead : List Lexeme
  written : List Lexeme

abbrev Rewriter (α : Type) : Type :=
  StateT Draft Option α

namespace Rewriter

variable {α : Type}

/-!
## Single lexemes
-/

def sees (view : View) : Rewriter Bool := do
  return view (← get).ahead

def write (lexemes : List Lexeme) : Rewriter Unit :=
  modify fun draft => { draft with written := draft.written ++ lexemes }

def take (count : Nat) : Rewriter (List Lexeme) := do
  let draft ← get
  guard (count ≤ draft.ahead.length)
  set { draft with ahead := draft.ahead.drop count }
  return draft.ahead.take count

def keep (count : Nat) : Rewriter Unit := do
  write (← take count)

def keepMark (text : String) : Rewriter Unit := do
  guard (← sees (View.mark text))
  keep text.length

def keepWord (text : String) : Rewriter Unit := do
  guard (← sees (View.word text))
  keep 1

def keepAnyWord : Rewriter Unit := do
  guard (← sees View.anyWord)
  keep 1

/-- Keep some lexemes if they are seen as a view says. The answer is whether they were. -/
def keepIf (view : View) (count : Nat) : Rewriter Bool := do
  if ← sees view then
    keep count
    return true
  return false

def keepMark? (text : String) : Rewriter Bool :=
  keepIf (View.mark text) text.length

def keepWord? (text : String) : Rewriter Bool :=
  keepIf (View.word text) 1

def keepLiteral : Rewriter Unit := do
  guard (← sees View.literal)
  keep (if ← sees View.plainLiteral then 1 else 2)

def keepTree : Rewriter Unit := do
  let draft ← get
  keep (draft.ahead.length - (View.afterTree draft.ahead).length)

def keepRest : Rewriter Unit := do
  let draft ← get
  keep draft.ahead.length

/-!
## Parts
-/

def aside (rewriter : Rewriter α) : Rewriter (α × List Lexeme) := do
  let outer ← get
  set { outer with written := [] }
  let result ← rewriter
  let inner ← get
  set { inner with written := outer.written }
  return (result, inner.written)

/-- Rewrite a part, but leave it as it is if the rewriter says so after it has read the part. -/
def orAsWritten (rewriter : Rewriter Bool) : Rewriter Unit := do
  let start := (← get).ahead
  let (asWritten, lexemes) ← aside rewriter
  let draft ← get
  write (if asWritten then before start draft.ahead else lexemes)

def asWritten (rewriter : Rewriter Unit) : Rewriter Unit :=
  orAsWritten do
    rewriter
    return true

def inside (rewriter : Rewriter α) : Rewriter α := do
  let draft ← get
  match draft.ahead with
  | [] => failure
  | opening :: rest =>
    guard (opening.token = .opening)
    let (content, after) := enclosed 1 rest
    set { ahead := content.dropLast, written := draft.written ++ [opening] : Draft }
    let result ← rewriter
    let inner ← get
    guard inner.ahead.isEmpty
    set { ahead := after, written := inner.written ++ content.getLast?.toList : Draft }
    return result

/-!
## Repetition
-/

/-- Repeat a step up to `fuel` times as long as it answers that it found something. -/
def repeatUpTo : Nat → Rewriter Bool → Rewriter Unit
  | 0, _ => pure ()
  | fuel + 1, step => do
    if ← step then repeatUpTo fuel step

/-- Repeat a step as long as it answers that it found something, of which it then reads a lexeme at
least. -/
def repeated (step : Rewriter Bool) : Rewriter Unit := do
  repeatUpTo ((← get).ahead.length + 1) step

/-- Elements up to the end with one of several marks between them; a mark may follow the last. -/
def separatedBy (marks : List String) (element : Rewriter Unit) : Rewriter Unit :=
  repeated do
    if ← sees View.ending then return false
    element
    keepIf (View.anyMark marks) 1

/-- Elements up to the end with commas between them; a comma may follow the last. -/
def separated (element : Rewriter Unit) : Rewriter Unit :=
  separatedBy [","] element

end Rewriter

end QueryText.Mapping
