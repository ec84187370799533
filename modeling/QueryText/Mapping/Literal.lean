import QueryText.Mapping.Token
import QueryText.Text.Digits

/-!
# Literals of declarations

String literals with escapes or raw, byte strings, characters and numbers. A word that follows a
literal at once is its suffix and belongs to it.
-/

set_option autoImplicit false

namespace QueryText.Mapping

/-!
## Quoted text
-/

def simpleEscape? : Char → Option Char
  | 'n' => some '\n'
  | 'r' => some '\r'
  | 't' => some '\t'
  | '0' => some (Char.ofNat 0)
  | '\\' => some '\\'
  | '\'' => some '\''
  | '"' => some '"'
  | _ => none

/-- The digits of an escape in braces, without underscores, and what follows the braces. -/
def bracedDigits (characters : List Char) : List Char × List Char :=
  ((characters.takeWhile (· != '\x7d')).filter (· != '_'),
    (characters.dropWhile (· != '\x7d')).drop 1)

def isContinuationSpace (character : Char) : Bool :=
  [' ', '\t', '\n', '\r'].contains character

/-- The contents of a string literal after its opening quote, in reverse, and what follows the
closing quote. A backslash at the end of a line skips the line end and the blanks that begin the
next lines. -/
def quotedText : Nat → List Char → List Char → List Char × List Char
  | 0, read, rest => (read, rest)
  | _, read, [] => (read, [])
  | fuel + 1, read, '\\' :: 'x' :: high :: low :: rest =>
    quotedText fuel (Char.ofNat ((Text.hexNumber? [high, low]).getD 0) :: read) rest
  | fuel + 1, read, '\\' :: 'u' :: rest =>
    let (digits, after) := bracedDigits (rest.drop 1)
    quotedText fuel (Char.ofNat ((Text.hexNumber? digits).getD 0) :: read) after
  | fuel + 1, read, '\\' :: character :: rest =>
    match simpleEscape? character with
    | some meant => quotedText fuel (meant :: read) rest
    | none => quotedText fuel read (rest.dropWhile isContinuationSpace)
  | fuel + 1, read, '\r' :: '\n' :: rest => quotedText fuel ('\n' :: read) rest
  | fuel + 1, read, character :: rest =>
    if character = '"' then (read, rest) else quotedText fuel (character :: read) rest

/-- The contents of a raw string literal that is closed by a quote and `hashes` number signs, in
reverse, and what follows it. -/
def rawText (hashes : Nat) : List Char → List Char → List Char × List Char
  | read, [] => (read, [])
  | read, character :: rest =>
    if character = '"' ∧ (rest.take hashes).length = hashes ∧ (rest.take hashes).all (· == '#') then
      (read, rest.drop hashes)
    else rawText hashes (character :: read) rest

/-- What follows a character literal, given what follows its opening quote; a lifetime is no
literal. -/
def afterCharacter? : List Char → Option (List Char)
  | '\\' :: _ :: rest => some ((rest.dropWhile (· != '\'')).drop 1)
  | _ :: '\'' :: rest => some rest
  | _ => none

/-!
## Suffixes and marks
-/

def afterSuffix (characters : List Char) : List Char :=
  if (characters.head?.map isWordStart).getD false then characters.dropWhile isWordCharacter
  else characters

/-- The token of a literal in quotes at the beginning of a text, and what follows it without its
suffix. A letter mark before the quotes says what the literal is. -/
def quotedToken? (characters : List Char) : Option (Token × List Char) :=
  let mark := characters.takeWhile isWordCharacter
  let rest := characters.dropWhile isWordCharacter
  let hashes := (rest.takeWhile (· == '#')).length
  match String.ofList mark, rest with
  | "", '"' :: rest =>
    let (content, after) := quotedText rest.length [] rest
    some (.text (String.ofList content.reverse), after)
  | "b", '"' :: rest | "c", '"' :: rest => some (.literal, (quotedText rest.length [] rest).2)
  | "", '\'' :: rest | "b", '\'' :: rest =>
    (afterCharacter? rest).map fun after => (.literal, after)
  | "r", _ =>
    match rest.drop hashes with
    | '"' :: rest =>
      let (content, after) := rawText hashes [] rest
      some (.text (String.ofList content.reverse), after)
    | _ => none
  | "br", _ | "cr", _ =>
    match rest.drop hashes with
    | '"' :: rest => some (.literal, (rawText hashes [] rest).2)
    | _ => none
  | _, _ => none

/-!
## Numbers
-/

def isDigitMark (character : Char) : Bool :=
  character.isDigit || character == '_'

/-- What follows the exponent of a number, given what follows its letter: a sign and digits. -/
def afterExponent? (characters : List Char) : Option (List Char) :=
  let unsigned :=
    match characters.dropWhile (· == '_') with
    | '+' :: rest | '-' :: rest => rest.dropWhile (· == '_')
    | rest => rest
  if (unsigned.head?.map Char.isDigit).getD false then some (unsigned.dropWhile isDigitMark)
  else none

def afterPower (characters : List Char) : List Char :=
  match characters with
  | 'e' :: rest | 'E' :: rest => (afterExponent? rest).getD characters
  | _ => characters

/-- What follows a number without its suffix. A point belongs to a number unless another point or
a word follows it at once. -/
def afterNumber (characters : List Char) : List Char :=
  match characters.dropWhile isDigitMark with
  | '.' :: rest =>
    if (rest.head?.map fun next => next == '.' || isWordStart next).getD false then '.' :: rest
    else afterPower (rest.dropWhile isDigitMark)
  | rest => afterPower rest

/-- The value of a whole number, which may have marks between its digits and a base in front. -/
def wholeNumber? (characters : List Char) : Option Nat :=
  match characters.filter (· != '_') with
  | [] => none
  | '0' :: 'x' :: digits => Text.numberInBase? 16 digits
  | '0' :: 'o' :: digits => Text.numberInBase? 8 digits
  | '0' :: 'b' :: digits => Text.numberInBase? 2 digits
  | digits => Text.numberInBase? 10 digits

def plainNumber (characters : List Char) : List Char :=
  match wholeNumber? characters with
  | some number => Nat.toDigits 10 number
  | none => characters

/-!
## Literals of every kind
-/

def nextLiteral? (characters : List Char) : Option (Lexeme × List Char) :=
  let unsuffixed :=
    match quotedToken? characters with
    | some (token, rest) => some (token, rest)
    | none =>
      if (characters.head?.map Char.isDigit).getD false then
        some (.literal, afterNumber characters)
      else none
  unsuffixed.map fun (token, rest) =>
    ({ token, source := before characters (afterSuffix rest) }, afterSuffix rest)

end QueryText.Mapping
