import QueryText.Proofs.Marker

/-!
# Phrases

The tree that the text of a condition spells. It is read by recursive descent over lexemes: a phrase
is a negation, or an operand that is followed by a connector and a second operand, by a test, or by
nothing; an operand is a phrase in parentheses, a column, or a word. Reading the text of a condition
gives the condition's own tree, with nothing left over.
-/

set_option autoImplicit false

namespace QueryText

/-!
## Trees
-/

/-- What stands between the two operands of a phrase. -/
inductive Connector where
  | and
  | or
  | like
  | relation (op : Relation)
  | arithmetic (op : ArithmeticOp)
  deriving DecidableEq

namespace Connector

def text : Connector → String
  | .and => " AND "
  | .or => " OR "
  | .like => " LIKE "
  | .relation op => " " ++ op.symbol ++ " "
  | .arithmetic op => " " ++ op.symbol ++ " "

def all : List Connector :=
  [.and, .or, .like, .relation .eq, .relation .ne, .relation .lt, .relation .le, .relation .gt,
    .relation .ge, .arithmetic .add, .arithmetic .subtract, .arithmetic .multiply,
    .arithmetic .divide]

end Connector

/-- A condition or an operand as its text spells it. A value is a marker or a literal. -/
inductive Phrase where
  | truth (holds : Bool)
  | column (parts : List (List Char))
  | value (lexemes : List Lexeme)
  | binary (connector : Connector) (left right : Phrase)
  | nullTest (negated : Bool) (operand : Phrase)
  | inList (negated : Bool) (operand : Phrase) (items : List (List Lexeme))
  | not (operand : Phrase)
  deriving DecidableEq

namespace Phrase

def truthText (holds : Bool) : String :=
  if holds then "1=1" else "1=0"

def nullTestText (negated : Bool) : String :=
  if negated then " IS NOT NULL" else " IS NULL"

def listText (negated : Bool) : String :=
  if negated then " NOT IN (" else " IN ("

end Phrase

/-!
## Reading lexemes
-/

namespace Lexeme

def strip? : List Char → List Lexeme → Option (List Lexeme)
  | [], lexemes => some lexemes
  | character :: others, .plain found :: lexemes =>
    if character = found then strip? others lexemes else none
  | _ :: _, _ => none

def isStop (character : Char) : Bool :=
  " ,)".toList.contains character

def nesting (depth : Nat) (character : Char) : Nat :=
  if character = '(' then depth + 1 else if character = ')' then depth - 1 else depth

def word (depth : Nat) : List Lexeme → List Lexeme × List Lexeme
  | [] => ([], [])
  | .plain character :: rest =>
    if depth = 0 ∧ isStop character = true then ([], .plain character :: rest)
    else (word (nesting depth character) rest).map (.plain character :: ·) id
  | .name content :: rest => (word depth rest).map (.name content :: ·) id
  | .text content :: rest => (word depth rest).map (.text content :: ·) id

def nameTail : List Lexeme → List (List Char) × List Lexeme
  | .plain '.' :: .name content :: rest => (nameTail rest).map (content :: ·) id
  | rest => ([], rest)

/-- The words of a list whose parenthesis has been opened, and what follows the closing one. -/
def items? : Nat → List Lexeme → Option (List (List Lexeme) × List Lexeme)
  | 0, _ => none
  | fuel + 1, lexemes =>
    match word 0 lexemes with
    | (item, .plain ',' :: rest) => (items? fuel rest).map (Prod.map (item :: ·) id)
    | (item, .plain ')' :: rest) => some ([item], rest)
    | _ => none

def list? (lexemes : List Lexeme) : Option (List (List Lexeme) × List Lexeme) :=
  ((strip? [')'] lexemes).map ([], ·)).or (items? lexemes.length lexemes)

end Lexeme

/-!
## Reading phrases
-/

namespace Phrase

open Lexeme (strip? word nameTail list?)

/-- A word by itself: a plain truth or a value. -/
def ofWord (word : List Lexeme) : Phrase :=
  if word = (truthText true).toList.map .plain then .truth true
  else if word = (truthText false).toList.map .plain then .truth false
  else .value word

/-- An operand and what follows it; `inner` reads what is in parentheses. -/
def operand? (inner : List Lexeme → Option (Phrase × List Lexeme)) :
    List Lexeme → Option (Phrase × List Lexeme)
  | [] => none
  | .plain character :: rest =>
    if character = '(' then do
      let (phrase, rest) ← inner rest
      let rest ← strip? [')'] rest
      return (phrase, rest)
    else
      let (word, rest) := word 0 (.plain character :: rest)
      some (ofWord word, rest)
  | .name content :: rest =>
    let (parts, rest) := nameTail rest
    some (.column (content :: parts), rest)
  | .text content :: rest =>
    let (word, rest) := word 0 (.text content :: rest)
    some (ofWord word, rest)

def connector? (lexemes : List Lexeme) : Option (Connector × List Lexeme) :=
  Connector.all.findSome? fun connector =>
    (strip? connector.text.toList lexemes).map (connector, ·)

/-- The null test at the front, made on `left`. -/
def nullTest? (left : Phrase) (lexemes : List Lexeme) : Option (Phrase × List Lexeme) :=
  [false, true].findSome? fun negated =>
    (strip? (nullTestText negated).toList lexemes).map (.nullTest negated left, ·)

/-- The list at the front, in which `left` is searched. -/
def inList? (left : Phrase) (lexemes : List Lexeme) : Option (Phrase × List Lexeme) :=
  [false, true].findSome? fun negated => do
    let rest ← strip? (listText negated).toList lexemes
    let (items, rest) ← list? rest
    return (.inList negated left items, rest)

def continue? (inner : List Lexeme → Option (Phrase × List Lexeme)) (left : Phrase)
    (lexemes : List Lexeme) : Option (Phrase × List Lexeme) :=
  match connector? lexemes with
  | some (connector, rest) => do
    let (right, rest) ← operand? inner rest
    return (.binary connector left right, rest)
  | none => (nullTest? left lexemes).or ((inList? left lexemes).or (some (left, lexemes)))

/-- A phrase and what follows it. Parentheses are read to a depth of at most `fuel`. -/
def read? : Nat → List Lexeme → Option (Phrase × List Lexeme)
  | 0, _ => none
  | fuel + 1, lexemes =>
    match strip? "NOT (".toList lexemes with
    | some rest => do
      let (operand, rest) ← read? fuel rest
      let rest ← strip? [')'] rest
      return (.not operand, rest)
    | none => do
      let (left, rest) ← operand? (read? fuel) lexemes
      continue? (read? fuel) left rest

def parse? (dialect : Dialect) (text : String) : Option Phrase := do
  let lexemes ← dialect.lexemes? text.toList
  match ← read? (lexemes.length + 1) lexemes with
  | (phrase, []) => some phrase
  | _ => none

end Phrase

/-!
## The phrase of a condition
-/

/-- The phrase of a term whose first slot is written behind `bound` parameters. -/
def Term.phrase (settings : Settings) (bound : Nat) : Term → Phrase
  | .column name => .column ((Dialect.nameParts name).map settings.dialect.nameContent)
  | .slot place => .value (settings.slotLexemes bound place)
  | .arithmetic op left right =>
    .binary (.arithmetic op) (left.phrase settings bound)
      (right.phrase settings (settings.after bound left.fragment.slots))

/-- The words of slots that are written behind `bound` parameters. -/
def Settings.words (settings : Settings) (bound : Nat) : List Slot → List (List Lexeme)
  | [] => []
  | slot :: rest =>
    settings.slotLexemes bound slot :: settings.words (settings.after bound [slot]) rest

/-- The phrase of a condition whose first slot is written behind `bound` parameters. -/
def Condition.phrase (settings : Settings) (bound : Nat) : Condition → Phrase
  | .truth holds => .truth holds
  | .comparison op left right =>
    .binary (.relation op) (left.phrase settings bound)
      (right.phrase settings (settings.after bound left.fragment.slots))
  | .nullTest negated term => .nullTest negated (term.phrase settings bound)
  | .like column pattern =>
    .binary .like ((Term.column column).phrase settings bound)
      ((Term.slot pattern).phrase settings bound)
  | .inList negated column items =>
    .inList negated ((Term.column column).phrase settings bound) (settings.words bound items)
  | .and left right =>
    .binary .and (left.phrase settings bound)
      (right.phrase settings (settings.after bound left.fragment.slots))
  | .or left right =>
    .binary .or (left.phrase settings bound)
      (right.phrase settings (settings.after bound left.fragment.slots))
  | .not operand => .not (operand.phrase settings bound)

end QueryText
