import QueryText.Text.Alphanumeric
import QueryText.Text.CaseMapping
import QueryText.Text.LetterCase

/-!
# Words of a name

A name is cut into words at every character that is not alphanumeric and at changes of case, and
the words are put together again by a naming rule: `LephoneEnum` has the words `Lephone` and
`Enum`, and is `LEPHONE_ENUM` in upper snake case.
-/

set_option autoImplicit false

namespace QueryText.Text

/-!
## Cutting
-/

/-- The last case seen in the word being read; digits and uncased letters leave it as it is. -/
inductive WordCase where
  | unseen
  | lower
  | upper
  deriving DecidableEq

def WordCase.after (seen : WordCase) (character : Char) : WordCase :=
  if isLowercase character then .lower
  else if isUppercase character then .upper
  else seen

def extendFirst (character : Char) : List (List Char) → List (List Char)
  | [] => [[character]]
  | word :: words => (character :: word) :: words

/-- Cut an alphanumeric piece at its changes of case. The first word of the result continues the
word that is being read, whose last case is `seen`.

A word ends after a character when the word is in lower case and an upper case character follows.
It ends before an upper case character when the word is in upper case and a lower case character
follows. -/
def cutAtCase (seen : WordCase) : List Char → List (List Char)
  | [] => []
  | [character] => [[character]]
  | character :: next :: rest =>
    if seen.after character = .lower ∧ isUppercase next then
      [character] :: cutAtCase .unseen (next :: rest)
    else if seen = .upper ∧ isUppercase character ∧ isLowercase next then
      [] :: extendFirst character (cutAtCase .unseen (next :: rest))
    else
      extendFirst character (cutAtCase (seen.after character) (next :: rest))

def alphanumericPieces (characters : List Char) : List (List Char) :=
  (characters.splitOnP fun character => !isAlphanumeric character).filter fun piece =>
    !piece.isEmpty

def words (name : String) : List (List Char) :=
  (alphanumericPieces name.toList).flatMap (cutAtCase .unseen)

/-!
## Joining
-/

def upperWord (word : List Char) : List Char :=
  word.flatMap upperOf

/-- A word in lower case; a capital sigma that ends the word takes its final form. -/
def lowerWord : List Char → List Char
  | [] => []
  | [character] => if character = '\u03A3' then ['\u03C2'] else lowerOf character
  | character :: next :: rest => lowerOf character ++ lowerWord (next :: rest)

/-- A word with its first character in upper case and the others in lower case. -/
def capitalWord : List Char → List Char
  | [] => []
  | character :: rest => upperOf character ++ lowerWord rest

inductive NamingRule where
  | pascalCase
  | camelCase
  | snakeCase
  | screamingSnakeCase
  | kebabCase
  deriving DecidableEq

namespace NamingRule

def apply (rule : NamingRule) (name : String) : String :=
  let parts := words name
  String.ofList <|
    match rule with
    | .pascalCase => (parts.map capitalWord).flatten
    | .camelCase =>
      match parts with
      | [] => []
      | first :: others => lowerWord first ++ (others.map capitalWord).flatten
    | .snakeCase => List.intercalate ['_'] (parts.map lowerWord)
    | .screamingSnakeCase => List.intercalate ['_'] (parts.map upperWord)
    | .kebabCase => List.intercalate ['-'] (parts.map lowerWord)

def ofName? : String → Option NamingRule
  | "PascalCase" => some .pascalCase
  | "camelCase" => some .camelCase
  | "snake_case" => some .snakeCase
  | "SCREAMING_SNAKE_CASE" => some .screamingSnakeCase
  | "kebab-case" => some .kebabCase
  | _ => none

end NamingRule

end QueryText.Text
