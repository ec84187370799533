import QueryText.Dialect.Basic
import QueryText.Text.Words

/-!
# Quoted identifiers

The parts of a dotted name are quoted one by one. Most products keep a name as it is and write its
closing quote twice; Oracle and Firebird fold names to upper snake case, which holds no quote.
-/

set_option autoImplicit false

namespace QueryText

def Text.doubled (mark : Char) : List Char → List Char
  | [] => []
  | character :: rest =>
    if character = mark then mark :: mark :: Text.doubled mark rest
    else character :: Text.doubled mark rest

namespace Dialect

def openingQuote : Dialect → Char
  | .sqlServer | .sqlite => '['
  | .mySql => '\x60'
  | .postgreSql | .oracle | .firebird => '"'

def closingQuote : Dialect → Char
  | .sqlServer | .sqlite => ']'
  | .mySql => '\x60'
  | .postgreSql | .oracle | .firebird => '"'

def foldsNames : Dialect → Bool
  | .oracle | .firebird => true
  | _ => false

def quotedContent (dialect : Dialect) (part : List Char) : List Char :=
  if dialect.foldsNames then
    (Text.NamingRule.screamingSnakeCase.apply (String.ofList part)).toList
  else Text.doubled dialect.closingQuote part

def quotedPart (dialect : Dialect) (part : List Char) : List Char :=
  dialect.openingQuote :: dialect.quotedContent part ++ [dialect.closingQuote]

/-- The parts of a dotted name; a name without a dot has one. -/
def nameParts (name : String) : List (List Char) :=
  name.toList.splitOn '.'

def quotedName (dialect : Dialect) (name : String) : String :=
  String.ofList (List.intercalate ['.'] ((nameParts name).map dialect.quotedPart))

end Dialect

end QueryText
