import QueryText.Dialect.Basic
import QueryText.Text.FinalSigma
import QueryText.Text.Words

/-!
# Key generators

Products without generated key columns take the next key of a table from a generator that is named
after the table and the key.
-/

set_option autoImplicit false

namespace QueryText.Dialect

def keyGenerator (table key : String) : String :=
  "GEN_" ++ Text.NamingRule.screamingSnakeCase.apply table ++ "_" ++
    Text.NamingRule.screamingSnakeCase.apply key

/-- The statement that takes the next value of the generator for a key of a table. -/
def nextKeyStatement (dialect : Dialect) (table key : String) : Except RenderError String :=
  match dialect with
  | .firebird => .ok ("SELECT GEN_ID(" ++ keyGenerator table key ++ ", 1) FROM RDB$DATABASE")
  | .oracle => .ok ("SELECT " ++ keyGenerator table key ++ ".NEXTVAL FROM DUAL")
  | .postgreSql =>
    .ok ("SELECT nextval('" ++ Text.lowercase table ++ "_" ++ Text.lowercase key ++ "_seq')")
  | _ => .error (.unsupportedByDialect dialect.name "sequence generator")

end QueryText.Dialect
