import QueryText.Toml.Quoted
import QueryText.Toml.Scalar

/-!
# TOML reader

A document is a sequence of lines: headers, keys with their values, comments and empty lines.
Arrays and inline tables may go over several lines and may end in a comma.
-/

set_option autoImplicit false

namespace QueryText.Toml

/-!
## Blanks
-/

def skipBlanks (characters : List Char) : List Char :=
  characters.dropWhile fun character => character == ' ' || character == '\t'

def skipComment (characters : List Char) : List Char :=
  match characters with
  | '#' :: rest => rest.dropWhile isLineCharacter
  | _ => characters

def skipLineEnd (characters : List Char) : Except TomlError (List Char) :=
  match skipComment (skipBlanks characters) with
  | [] => .ok []
  | '\n' :: rest | '\r' :: '\n' :: rest => .ok rest
  | _ => .error (.expected "end of line")

def skipLines : Nat → List Char → List Char
  | 0, characters => characters
  | fuel + 1, characters =>
    match skipComment (skipBlanks characters) with
    | '\n' :: rest | '\r' :: '\n' :: rest => skipLines fuel rest
    | rest => rest

def skipSpace (characters : List Char) : List Char :=
  skipLines characters.length characters

/-!
## Keys
-/

def isKeyCharacter (character : Char) : Bool :=
  character.isAlphanum || character == '_' || character == '-'

def readKeyPart (characters : List Char) : Except TomlError (String × List Char) :=
  match characters with
  | '"' :: rest => readLine '"' characters.length [] rest
  | '\'' :: rest => readLine '\'' characters.length [] rest
  | _ =>
    let part := characters.takeWhile isKeyCharacter
    if part.isEmpty then .error (.expected "key")
    else .ok (String.ofList part, characters.dropWhile isKeyCharacter)

/-- A key of at most `limit` parts, with the blanks around its dots and behind it. -/
def readKeyParts : Nat → List Char → Except TomlError (List String × List Char)
  | 0, _ => .error .tooDeep
  | limit + 1, characters => do
    let (part, rest) ← readKeyPart (skipBlanks characters)
    match skipBlanks rest with
    | '.' :: rest =>
      let (path, rest) ← readKeyParts limit rest
      return (part :: path, rest)
    | rest => return ([part], rest)

/-- How deep arrays and inline tables may be nested, and how many parts a key may have. -/
def nestingLimit : Nat := 80

def readKey (characters : List Char) : Except TomlError (List String × List Char) :=
  readKeyParts nestingLimit characters

/-!
## Values
-/

def endsScalar (character : Char) : Bool :=
  [' ', '\t', '\n', '\r', '#', ',', '[', ']', '\x7b', '\x7d', '='].contains character

/-- The characters of a scalar without quotes. A blank may stand between a date and a time. -/
def scalarCharacters (characters : List Char) : List Char :=
  let scalar := characters.takeWhile fun character => !endsScalar character
  match afterDate? scalar, characters.drop scalar.length with
  | some [], ' ' :: digit :: rest =>
    if digit.isDigit then
      scalar ++ ' ' :: (digit :: rest).takeWhile fun character => !endsScalar character
    else scalar
  | _, _ => scalar

def scalar? (characters : List Char) : Option Node :=
  if characters = "true".toList then some (.boolean true)
  else if characters = "false".toList then some (.boolean false)
  else
    match integer? characters with
    | some number => if fitsWord number then some .number else none
    | none =>
      if isDouble characters then some .number
      else if isMoment characters then some .moment
      else none

def readItems (readItem : List Char → Except TomlError (Node × List Char)) :
    Nat → List Char → Except TomlError (List Node × List Char)
  | 0, _ => .error (.expected "closing bracket")
  | fuel + 1, characters =>
    match skipSpace characters with
    | ']' :: rest => .ok ([], rest)
    | characters => do
      let (item, rest) ← readItem characters
      match skipSpace rest with
      | ',' :: rest =>
        let (items, rest) ← readItems readItem fuel rest
        return (item :: items, rest)
      | ']' :: rest => return ([item], rest)
      | _ => throw (.expected "comma or closing bracket")

/-- The entries of an inline table after its opening brace, added to `table`. Lines may end between
a key, its equals sign and its value too. -/
def readEntries (readItem : List Char → Except TomlError (Node × List Char)) :
    Nat → Node → List Char → Except TomlError (Node × List Char)
  | 0, _, _ => .error (.expected "closing brace")
  | fuel + 1, table, characters =>
    match skipSpace characters with
    | '\x7d' :: rest => .ok (table, rest)
    | characters => do
      let (path, rest) ← readKey characters
      let '=' :: rest := skipSpace rest | throw (.expected "equals sign")
      let (item, rest) ← readItem (skipSpace rest)
      let table ← table.addInline path item
      match skipSpace rest with
      | ',' :: rest => readEntries readItem fuel table rest
      | '\x7d' :: rest => return (table, rest)
      | _ => throw (.expected "comma or closing brace")

/-- A value, in which arrays and inline tables may be nested `depth` times. -/
def readValue : Nat → List Char → Except TomlError (Node × List Char)
  | depth, '[' :: rest =>
    match depth with
    | 0 => .error .tooDeep
    | depth + 1 => do
      let (items, rest) ← readItems (readValue depth) (rest.length + 1) rest
      return (.array false items, rest)
  | depth, '\x7b' :: rest =>
    match depth with
    | 0 => .error .tooDeep
    | depth + 1 => readEntries (readValue depth) (rest.length + 1) (.table .inline []) rest
  | _, '"' :: rest => do
    let (content, rest) ← readString '"' ('"' :: rest)
    return (.text content, rest)
  | _, '\'' :: rest => do
    let (content, rest) ← readString '\'' ('\'' :: rest)
    return (.text content, rest)
  | _, characters =>
    let scalar := scalarCharacters characters
    match scalar? scalar with
    | some value => .ok (value, characters.drop scalar.length)
    | none => .error (.invalidValue (String.ofList scalar))

/-!
## Lines
-/

structure State where
  root : Node := .table .defined []
  header : List String := []

namespace State

def readHeader (state : State) (ofArray : Bool) (characters : List Char) :
    Except TomlError (State × List Char) := do
  let (path, rest) ← readKey characters
  let rest ←
    match ofArray, rest with
    | false, ']' :: rest | true, ']' :: ']' :: rest => pure rest
    | _, _ => throw (.expected "closing bracket")
  let root ← if ofArray then state.root.defineArrayTable path else state.root.defineTable path
  let rest ← skipLineEnd rest
  return (⟨root, path⟩, rest)

def readEntry (state : State) (characters : List Char) :
    Except TomlError (State × List Char) := do
  let (path, rest) ← readKey characters
  let '=' :: rest := rest | throw (.expected "equals sign")
  let (value, rest) ← readValue nestingLimit (skipBlanks rest)
  let root ← state.root.addToTable state.header path value
  let rest ← skipLineEnd rest
  return ({ state with root }, rest)

/-- Read the rest of a document. Every header and every entry takes a character at least, so as
much fuel as there are characters suffices. -/
def readAll : Nat → State → List Char → Except TomlError Node
  | 0, state, _ => .ok state.root
  | fuel + 1, state, characters =>
    match skipSpace characters with
    | [] => .ok state.root
    | '[' :: '[' :: rest => do
      let (state, rest) ← state.readHeader true rest
      readAll fuel state rest
    | '[' :: rest => do
      let (state, rest) ← state.readHeader false rest
      readAll fuel state rest
    | characters => do
      let (state, rest) ← state.readEntry characters
      readAll fuel state rest

end State

/-- Read a document. A byte order mark may stand at its beginning. -/
def readDocument (text : String) : Except TomlError Node :=
  let characters :=
    match text.toList with
    | '\uFEFF' :: rest => rest
    | characters => characters
  State.readAll (characters.length + 1) {} characters

end QueryText.Toml
