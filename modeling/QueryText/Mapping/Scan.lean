import QueryText.Mapping.Literal
import QueryText.Text.GraphemeExtend
import QueryText.Text.Unprintable

/-!
# Reading tokens

A text is cut into lexemes. White space and comments separate them, except for documentation
comments, which stand for a `doc` attribute and so are tokens.
-/

set_option autoImplicit false

namespace QueryText.Mapping

/-!
## Comments
-/

/-- What follows a comment in slashes and stars, which may hold others, from inside of `depth` of
them. -/
def afterComment : Nat → List Char → List Char
  | _, [] => []
  | depth, '/' :: '*' :: rest => afterComment (depth + 1) rest
  | depth, '*' :: '/' :: rest => if depth ≤ 1 then rest else afterComment (depth - 1) rest
  | depth, _ :: rest => afterComment depth rest

def skipBlank : Nat → List Char → List Char
  | 0, characters => characters
  | fuel + 1, characters =>
    match characters.dropWhile isSpace with
    | '/' :: '/' :: '/' :: '/' :: rest => skipBlank fuel (rest.dropWhile (· != '\n'))
    | '/' :: '/' :: '/' :: rest => '/' :: '/' :: '/' :: rest
    | '/' :: '/' :: '!' :: rest => '/' :: '/' :: '!' :: rest
    | '/' :: '/' :: rest => skipBlank fuel (rest.dropWhile (· != '\n'))
    | '/' :: '*' :: '*' :: '/' :: rest => skipBlank fuel rest
    | '/' :: '*' :: '*' :: '*' :: rest => skipBlank fuel (afterComment 1 ('*' :: '*' :: rest))
    | '/' :: '*' :: '*' :: rest => '/' :: '*' :: '*' :: rest
    | '/' :: '*' :: '!' :: rest => '/' :: '*' :: '!' :: rest
    | '/' :: '*' :: rest => skipBlank fuel (afterComment 1 rest)
    | rest => rest

/-!
## Documentation
-/

/-- A documentation comment: whether it is about what encloses it, and its text. -/
structure Documentation where
  inner : Bool
  content : List Char
  deriving DecidableEq

namespace Documentation

def line (characters : List Char) : List Char × List Char :=
  let content := characters.takeWhile (· != '\n')
  let rest := characters.drop content.length
  if rest.isEmpty ∨ content.getLast? ≠ some '\r' then (content, rest) else (content.dropLast, rest)

/-- The contents of a comment in slashes and stars after its opening, and what follows it. -/
def block (characters : List Char) : List Char × List Char :=
  let rest := afterComment 1 characters
  ((before characters rest).dropLast.dropLast, rest)

/-- The documentation comment at the beginning of a text, and what follows it. -/
def next? : List Char → Option (Documentation × List Char)
  | '/' :: '/' :: '!' :: rest => some (⟨true, (line rest).1⟩, (line rest).2)
  | '/' :: '/' :: '/' :: rest => some (⟨false, (line rest).1⟩, (line rest).2)
  | '/' :: '*' :: '!' :: rest => some (⟨true, (block rest).1⟩, (block rest).2)
  | '/' :: '*' :: '*' :: rest => some (⟨false, (block rest).1⟩, (block rest).2)
  | _ => none

/-- How a character is written in a string literal. Characters that would not show there are
written by their codes. -/
def writtenCharacter (character : Char) : List Char :=
  match character with
  | '"' => ['\\', '"']
  | '\\' => ['\\', '\\']
  | '\t' => ['\\', 't']
  | '\n' => ['\\', 'n']
  | '\r' => ['\\', 'r']
  | character =>
    if Text.isGraphemeExtend character || Text.isUnprintable character then
      ['\\', 'u', '\x7b'] ++ Nat.toDigits 16 character.toNat ++ ['\x7d']
    else [character]

/-- How a text is written in a string literal. The zero character has a short form, which an octal
digit must not follow. -/
def writtenText : List Char → List Char
  | [] => []
  | character :: rest =>
    if character.toNat = 0 then
      (if (rest.head?.map fun next => '0' ≤ next && next ≤ '7').getD false then
        ['\\', 'x', '0', '0']
      else ['\\', '0']) ++ writtenText rest
    else writtenCharacter character ++ writtenText rest

def lexemes (comment : Documentation) : List Lexeme :=
  let content : Lexeme :=
    { token := .text (String.ofList comment.content)
      source := '"' :: writtenText comment.content ++ ['"'] }
  [.punctuation '#'] ++ (if comment.inner then [.punctuation '!'] else []) ++
    [.ofCharacter '[', .word "doc".toList, .punctuation '=', content, .ofCharacter ']']

end Documentation

/-!
## Texts
-/

/-- Whether a text begins with a punctuation mark. A slash that opens a comment is none. -/
def beginsWithMark : List Char → Bool
  | '/' :: '/' :: _ | '/' :: '*' :: _ => false
  | character :: _ => "~!@#$%^&*-=+|;:,<.>/?'".toList.contains character
  | [] => false

def nextPlain? : List Char → Option (Lexeme × List Char)
  | [] => none
  | 'r' :: '#' :: rest =>
    some (.word ('r' :: '#' :: rest.takeWhile isWordCharacter), rest.dropWhile isWordCharacter)
  | character :: rest =>
    if isWordCharacter character then
      some (.word (character :: rest.takeWhile isWordCharacter), rest.dropWhile isWordCharacter)
    else some ({ Lexeme.ofCharacter character with joint := beginsWithMark rest }, rest)

/-- The first lexemes of a text that does not begin with white space, and what follows them. -/
def nextLexemes? (characters : List Char) : Option (List Lexeme × List Char) :=
  match Documentation.next? characters with
  | some (comment, rest) => some (comment.lexemes, rest)
  | none =>
    ((nextLiteral? characters).orElse fun _ => nextPlain? characters).map fun (lexeme, rest) =>
      ([lexeme], rest)

namespace Lexeme

/-- The lexemes of a text, read in at most `fuel` steps. -/
def scanAll : Nat → List Char → List Lexeme
  | 0, _ => []
  | fuel + 1, characters =>
    match nextLexemes? (skipBlank characters.length characters) with
    | some (lexemes, rest) => lexemes ++ scanAll fuel rest
    | none => []

/-- The lexemes of a text. Every step takes a character at least, so the fuel suffices. -/
def scan (text : String) : List Lexeme :=
  scanAll text.toList.length text.toList

end Lexeme

def Token.scan (text : String) : List Token :=
  (Lexeme.scan text).map Lexeme.token

end QueryText.Mapping
