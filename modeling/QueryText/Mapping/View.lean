import QueryText.Mapping.Scan

/-!
# Views of lexemes

What a reader of declarations asks about the lexemes ahead of it. A view looks at the first tree of
lexemes, or at a later one: a bracket with all up to its closing one is a tree, and so is a
lifetime.
-/

set_option autoImplicit false

namespace QueryText.Mapping

abbrev View : Type :=
  List Lexeme → Bool

/-- The lexemes up to the bracket that closes the outermost of `depth` open ones, that bracket
included, and what follows. -/
def enclosed : Nat → List Lexeme → List Lexeme × List Lexeme
  | _, [] => ([], [])
  | depth, lexeme :: rest =>
    match lexeme.token with
    | .closing =>
      if depth ≤ 1 then ([lexeme], rest)
      else
        let (inside, rest) := enclosed (depth - 1) rest
        (lexeme :: inside, rest)
    | .opening =>
      let (inside, rest) := enclosed (depth + 1) rest
      (lexeme :: inside, rest)
    | _ =>
      let (inside, rest) := enclosed depth rest
      (lexeme :: inside, rest)

namespace View

/-!
## The first tree
-/

def ending : View
  | [] => true
  | _ => false

def marks : List Char → View
  | [], _ => true
  | _, [] => false
  | [character], lexeme :: _ => lexeme.token == .punctuation character
  | character :: more, lexeme :: rest =>
    lexeme.token == .punctuation character && lexeme.joint && marks more rest

def mark (text : String) : View :=
  marks text.toList

def anyMark (texts : List String) : View :=
  fun ahead => texts.any fun text => mark text ahead

def word? : List Lexeme → Option String
  | { token := .word text, .. } :: _ => some text
  | _ => none

def word (text : String) : View :=
  fun ahead => word? ahead == some text

def anyWordOf (texts : List String) : View :=
  fun ahead => (word? ahead).any texts.contains

def anyWord : View :=
  fun ahead => (word? ahead).isSome

def name : View :=
  fun ahead => (word? ahead).any fun text => !keywords.contains text

def lifetime : View :=
  fun ahead => mark "'" ahead && anyWord (ahead.drop 1)

def text : View
  | { token := .text _, .. } :: _ => true
  | _ => false

def plainLiteral : View
  | { token := .text _, .. } :: _ | { token := .literal, .. } :: _ => true
  | ahead => anyWordOf ["true", "false"] ahead

/-- A literal. A number may have a sign. -/
def literal : View
  | { token := .punctuation '-', .. } :: { token := .literal, .. } :: _ => true
  | ahead => plainLiteral ahead

def group (opening : Char) : View
  | lexeme :: _ => lexeme.source == [opening]
  | [] => false

def anyGroup : View
  | lexeme :: _ => lexeme.token == .opening
  | [] => false

/-!
## Later trees
-/

def afterTree (ahead : List Lexeme) : List Lexeme :=
  match ahead with
  | [] => []
  | lexeme :: rest =>
    if lexeme.token = .opening then (enclosed 1 rest).2
    else if lifetime ahead then rest.drop 1
    else rest

def second (view : View) : View :=
  fun ahead => view (afterTree ahead)

def third (view : View) : View :=
  second (second view)

def within (view : View) : View
  | lexeme :: rest => lexeme.token == .opening && view (enclosed 1 rest).1.dropLast
  | [] => false

def all (views : List View) : View :=
  fun ahead => views.all fun view => view ahead

def any (views : List View) : View :=
  fun ahead => views.any fun view => view ahead

def except (view other : View) : View :=
  fun ahead => view ahead && !other ahead

/-!
## Paths
-/

/-- What follows a path of plain words, read in at most `fuel` steps; nothing if there is no such
path. -/
def afterWords? : Nat → List Lexeme → Option (List Lexeme)
  | 0, _ => none
  | fuel + 1, ahead =>
    if any [name, anyWordOf ["super", "self", "Self", "crate"]] ahead then
      let rest := ahead.drop 1
      if mark "::" rest then afterWords? fuel (rest.drop 2) else some rest
    else none

def afterPlainPath? (ahead : List Lexeme) : Option (List Lexeme) :=
  let words := if mark "::" ahead then ahead.drop 2 else ahead
  afterWords? ahead.length words

def plainPath (view : View) : View :=
  fun ahead => (afterPlainPath? ahead).any view

def parenthesized : View :=
  any [group '(', all [mark "::", third (group '(')]]

/-- Parameters in angle brackets where a path with angle brackets could stand as well. -/
def parameters : View :=
  all [mark "<", any [second (mark ">"), second (mark "#"), second (word "const"),
    all [any [second lifetime, second name],
      any [third (mark ">"), third (mark ","), third (except (mark ":") (mark "::")),
        third (mark "=")]]]]

end View

end QueryText.Mapping
