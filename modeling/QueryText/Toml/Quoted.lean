import QueryText.Text.Digits
import QueryText.Toml.Node

/-!
# TOML strings

Strings in double quotes have escapes, those in single quotes have none. Three quotes enclose a
string of several lines, whose first line break is dropped if it follows the quotes at once.
-/

set_option autoImplicit false

namespace QueryText.Toml

/-- Whether a character may stand for itself on a line: a tab, or no control character. -/
def isLineCharacter (character : Char) : Bool :=
  character == '\t' || (0x20 ≤ character.toNat && character.toNat != 0x7F)

/-!
## Escapes
-/

def codeCharacter? (digits : List Char) : Option Char := do
  let code ← Text.hexNumber? digits
  if code < 0xD800 ∨ 0xDFFF < code ∧ code < 0x110000 then some (Char.ofNat code) else none

/-- The character of an escape, given what follows the backslash, and the rest. -/
def escape? : List Char → Option (Char × List Char)
  | 'b' :: rest => some (Char.ofNat 0x08, rest)
  | 't' :: rest => some ('\t', rest)
  | 'n' :: rest => some ('\n', rest)
  | 'f' :: rest => some (Char.ofNat 0x0C, rest)
  | 'r' :: rest => some ('\r', rest)
  | 'e' :: rest => some (Char.ofNat 0x1B, rest)
  | '"' :: rest => some ('"', rest)
  | '\\' :: rest => some ('\\', rest)
  | 'x' :: rest => hexEscape? 2 rest
  | 'u' :: rest => hexEscape? 4 rest
  | 'U' :: rest => hexEscape? 8 rest
  | _ => none
where
  /-- An escape by `count` hexadecimal digits. -/
  hexEscape? (count : Nat) (characters : List Char) : Option (Char × List Char) :=
    if (characters.take count).length = count then
      (codeCharacter? (characters.take count)).map fun meant => (meant, characters.drop count)
    else none

/-- What follows the line breaks and blanks behind a backslash that ends a line. -/
def afterLineEnd? (characters : List Char) : Option (List Char) :=
  let isBlank := fun character => character == ' ' || character == '\t'
  match characters.dropWhile isBlank with
  | '\n' :: rest | '\r' :: '\n' :: rest => some (skip rest.length rest)
  | _ => none
where
  skip : Nat → List Char → List Char
    | 0, rest => rest
    | fuel + 1, rest =>
      match rest with
      | ' ' :: rest | '\t' :: rest | '\n' :: rest | '\r' :: '\n' :: rest => skip fuel rest
      | rest => rest

/-!
## Strings
-/

def readLine (quote : Char) : Nat → List Char → List Char → Except TomlError (String × List Char)
  | 0, _, _ => .error (.expected "closing quote")
  | _, _, [] => .error (.expected "closing quote")
  | fuel + 1, read, character :: rest =>
    if character = quote then .ok (String.ofList read.reverse, rest)
    else if character = '\\' ∧ quote = '"' then
      match escape? rest with
      | some (meant, rest) => readLine quote fuel (meant :: read) rest
      | none => .error (.expected "escape sequence")
    else if isLineCharacter character then readLine quote fuel (character :: read) rest
    else .error (.expected "closing quote")

/-- The contents of a string of several lines after its opening quotes. Up to two quotes may stand
before the closing ones. -/
def readLines (quote : Char) : Nat → List Char → List Char → Except TomlError (String × List Char)
  | 0, _, _ => .error (.expected "closing quotes")
  | _, _, [] => .error (.expected "closing quotes")
  | fuel + 1, read, character :: rest =>
    if character = quote then
      let quotes := ((character :: rest).takeWhile (· == quote)).length
      if 5 < quotes then .error (.expected "end of string")
      else if 3 ≤ quotes then
        .ok (String.ofList (List.replicate (quotes - 3) quote ++ read).reverse,
          (character :: rest).drop quotes)
      else readLines quote fuel (character :: read) rest
    else if character = '\\' ∧ quote = '"' then
      match afterLineEnd? rest, escape? rest with
      | some rest, _ => readLines quote fuel read rest
      | none, some (meant, rest) => readLines quote fuel (meant :: read) rest
      | none, none => .error (.expected "escape sequence")
    else
      match character, rest with
      | '\r', '\n' :: rest => readLines quote fuel ('\n' :: read) rest
      | '\n', rest => readLines quote fuel ('\n' :: read) rest
      | character, rest =>
        if isLineCharacter character then readLines quote fuel (character :: read) rest
        else .error (.expected "closing quotes")

def dropLineBreak : List Char → List Char
  | '\n' :: rest | '\r' :: '\n' :: rest => rest
  | characters => characters

def readString (quote : Char) (characters : List Char) : Except TomlError (String × List Char) :=
  if characters.take 3 = [quote, quote, quote] then
    readLines quote characters.length [] (dropLineBreak (characters.drop 3))
  else readLine quote characters.length [] (characters.drop 1)

end QueryText.Toml
