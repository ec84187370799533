import QueryText.Text.Blank

/-!
# Declaration tokens

The tokens of a record declaration: its names, its attributes and the types of its fields. A token
keeps what a reader of attributes can tell apart; a lexeme also keeps how the token is written,
which is what the text of a type is made of.
-/

set_option autoImplicit false

namespace QueryText.Mapping

inductive Token where
  /-- An identifier or a keyword; a raw identifier keeps its mark. -/
  | word (text : String)
  | text (content : String)
  | literal
  | punctuation (mark : Char)
  | opening
  | closing
  deriving DecidableEq

/-- A token as it is written. A mark is joint if another mark follows it at once, with which it
may make up a longer one. -/
structure Lexeme where
  token : Token
  source : List Char
  joint : Bool := false
  deriving DecidableEq

/-!
## Character classes
-/

/-- White space between tokens: blanks of every alphabet and the marks of writing direction. -/
def isSpace (character : Char) : Bool :=
  Text.isBlank character || character.toNat == 0x200E || character.toNat == 0x200F

/-- A character inside a word. Beyond ASCII a token other than a word or a quoted literal holds
only white space, so every other character there belongs to a word. -/
def isWordCharacter (character : Char) : Bool :=
  character.isAlphanum || character == '_' || (0x80 ≤ character.toNat && !isSpace character)

def isWordStart (character : Char) : Bool :=
  isWordCharacter character && !character.isDigit

/-- What stands in a list before the end `rest` of it. -/
def before {α : Type} (items rest : List α) : List α :=
  items.take (items.length - rest.length)

/-!
## Keywords
-/

def keywords : List String :=
  ["_", "abstract", "as", "async", "await", "become", "box", "break", "const", "continue", "crate",
   "do", "dyn", "else", "enum", "extern", "false", "final", "fn", "for", "if", "impl", "in", "let",
   "loop", "macro", "match", "mod", "move", "mut", "override", "priv", "pub", "ref", "return",
   "Self", "self", "static", "struct", "super", "trait", "true", "try", "type", "typeof", "unsafe",
   "unsized", "use", "virtual", "where", "while", "yield"]

namespace Lexeme

def word (source : List Char) : Lexeme :=
  { token := .word (String.ofList source), source }

def punctuation (mark : Char) : Lexeme :=
  { token := .punctuation mark, source := [mark] }

/-- The lexeme of a bracket or another character that is a token by itself. -/
def ofCharacter (character : Char) : Lexeme :=
  if ['(', '[', '\x7b'].contains character then { token := .opening, source := [character] }
  else if [')', ']', '\x7d'].contains character then { token := .closing, source := [character] }
  else punctuation character

/-- How several lexemes are written without white space, that inside literals included. -/
def joined (lexemes : List Lexeme) : String :=
  String.ofList ((lexemes.flatMap Lexeme.source).filter (· != ' '))

end Lexeme

end QueryText.Mapping
