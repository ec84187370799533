import QueryText.Mapping.Scan
import QueryText.Text.Words

/-!
# Mapping attributes

The attributes by which a record declaration and its fields say how they are stored. An attribute
holds items between commas, the last of which may be followed by a comma. Items that are given
again override the earlier ones or, when they only mark a field, add nothing.
-/

set_option autoImplicit false

namespace QueryText.Mapping

/-!
## Errors
-/

inductive MappingError where
  | genericRecord
  | unnamedFields
  | notARecord
  | unknownRecordItem (name : String)
  | unknownFieldItem (name : String)
  | unknownNamingRule (name : String)
  | generatedWithoutKey
  | missingItems
  | itemsNotInBrackets
  | expectedWord
  | expectedWordFoundKeyword (keyword : String)
  | expectedEquals
  | expectedText
  | expectedTextFoundEnd
  | unexpectedToken
  deriving DecidableEq

namespace MappingError

def message : MappingError → String
  | genericRecord => "Entity cannot be derived for generic structs"
  | unnamedFields => "Entity can only be derived for structs with named fields"
  | notARecord => "Entity can only be derived for structs"
  | unknownRecordItem name => "unknown entity attribute `" ++ name ++ "`"
  | unknownFieldItem name => "unknown field attribute `" ++ name ++ "`"
  | unknownNamingRule name => "unknown rename_all rule \"" ++ name ++ "\""
  | generatedWithoutKey => "`generated` is only valid together with `id`"
  | missingItems => "expected attribute arguments in parentheses: #[orm(...)]"
  | itemsNotInBrackets => "expected parentheses: #[orm(...)]"
  | expectedWord => "expected identifier"
  | expectedWordFoundKeyword keyword => "expected identifier, found keyword `" ++ keyword ++ "`"
  | expectedEquals => "expected `=`"
  | expectedText => "expected string literal"
  | expectedTextFoundEnd => "unexpected end of input, expected string literal"
  | unexpectedToken => "unexpected token"

end MappingError

/-!
## Written attributes
-/

inductive ItemValue where
  | text (content : String)
  | other (source : String)
  deriving DecidableEq

/-- An item of a mapping attribute; an item with an empty key and no value is an empty place. -/
structure Item where
  key : String
  value : Option ItemValue := none
  deriving DecidableEq

inductive Attribute where
  | mapping (items : List Item)
  | written (source : String)
  deriving DecidableEq

def Item.tokens (item : Item) : List Token :=
  match item.value with
  | none => Token.scan item.key
  | some (.text content) => Token.scan item.key ++ [.punctuation '=', .text content]
  | some (.other source) => Token.scan item.key ++ .punctuation '=' :: Token.scan source

def Item.listTokens : List Item → List Token
  | [] => []
  | [item] => item.tokens
  | item :: next :: rest => item.tokens ++ .punctuation ',' :: listTokens (next :: rest)

namespace Attribute

def tokens : Attribute → List Token
  | mapping items => .word "orm" :: .opening :: Item.listTokens items ++ [.closing]
  | written source => Token.scan source

/-- The tokens between the brackets of a mapping attribute; nothing for an attribute that is about
something else. -/
def items? (note : Attribute) : Except MappingError (Option (List Token)) :=
  match note.tokens with
  | [.word "orm"] => .error .missingItems
  | .word "orm" :: .punctuation '=' :: _ => .error .itemsNotInBrackets
  | .word "orm" :: .opening :: rest => .ok (some rest.dropLast)
  | _ => .ok none

end Attribute

/-!
## Reading items
-/

def checkName (name : String) : Except MappingError Unit :=
  if keywords.contains name then .error (.expectedWordFoundKeyword name) else .ok ()

structure RecordOptions where
  table : Option String := none
  naming : Option Text.NamingRule := none
  deriving DecidableEq

structure FieldOptions where
  key : Bool := false
  generated : Bool := false
  column : Option String := none
  deriving DecidableEq

namespace RecordOptions

def apply (options : RecordOptions) (name value : String) : Except MappingError RecordOptions :=
  if name = "table" then .ok { options with table := some value }
  else if name = "rename_all" then
    match Text.NamingRule.ofName? value with
    | some rule => .ok { options with naming := some rule }
    | none => .error (.unknownNamingRule value)
  else .error (.unknownRecordItem name)

def read (options : RecordOptions) : List Token → Except MappingError RecordOptions
  | [] => .ok options
  | .word name :: .punctuation '=' :: .text value :: rest => do
    checkName name
    let options ← options.apply name value
    match rest with
    | [] => return options
    | .punctuation ',' :: rest => options.read rest
    | _ => throw .unexpectedToken
  | [.word name, .punctuation '='] => do
    checkName name
    throw .expectedTextFoundEnd
  | .word name :: .punctuation '=' :: _ => do
    checkName name
    throw .expectedText
  | .word name :: _ => do
    checkName name
    throw .expectedEquals
  | _ => .error .expectedWord

/-- The options of two attributes together; the later one overrides. -/
def merge (earlier later : RecordOptions) : RecordOptions :=
  { table := later.table.or earlier.table, naming := later.naming.or earlier.naming }

def readAttribute (options : RecordOptions) (note : Attribute) :
    Except MappingError RecordOptions := do
  match ← note.items? with
  | some tokens =>
    let later ← read {} tokens
    return options.merge later
  | none => return options

def ofAttributes (attributes : List Attribute) : Except MappingError RecordOptions :=
  attributes.foldlM readAttribute {}

end RecordOptions

namespace FieldOptions

def read (options : FieldOptions) : List Token → Except MappingError FieldOptions
  | [] => .ok options
  | .word "column" :: .punctuation '=' :: .text value :: rest =>
    match rest with
    | [] => .ok { options with column := some value }
    | .punctuation ',' :: rest => FieldOptions.read { options with column := some value } rest
    | _ => .error .unexpectedToken
  | [.word "column", .punctuation '='] => .error .expectedTextFoundEnd
  | .word "column" :: .punctuation '=' :: _ => .error .expectedText
  | .word "column" :: _ => .error .expectedEquals
  | .word name :: rest => do
    checkName name
    let options ←
      if name = "id" then pure { options with key := true }
      else if name = "generated" then pure { options with generated := true }
      else throw (.unknownFieldItem name)
    match rest with
    | [] => return options
    | .punctuation ',' :: rest => FieldOptions.read options rest
    | _ => throw .unexpectedToken
  | _ => .error .expectedWord

/-- The options of two attributes together: marks add up, and the later column overrides. -/
def merge (earlier later : FieldOptions) : FieldOptions :=
  { key := earlier.key || later.key
    generated := earlier.generated || later.generated
    column := later.column.or earlier.column }

def readAttribute (options : FieldOptions) (note : Attribute) :
    Except MappingError FieldOptions := do
  match ← note.items? with
  | some tokens =>
    let later ← read {} tokens
    return options.merge later
  | none => return options

/-- Read all attributes of a field. Only a key can be generated. -/
def ofAttributes (attributes : List Attribute) : Except MappingError FieldOptions := do
  let options ← attributes.foldlM readAttribute {}
  if options.generated && !options.key then throw .generatedWithoutKey
  return options

end FieldOptions

end QueryText.Mapping
