import QueryText.Settings
import QueryText.Toml.Document

/-!
# Configuration text

Settings are read from a TOML document. A setting that the document does not name keeps its
standard value, and names that are no setting are ignored.
-/

set_option autoImplicit false

namespace QueryText.Settings

open Toml

def badSetting {α : Type} (name : String) : Except RenderError α :=
  .error (.config ("invalid value for " ++ name))

/-- The dialect that a value names: by its text, or by the only key of a table, below which there
is nothing. -/
def dialectOf : Node → Except RenderError Dialect
  | .text name => named name
  | .table _ [(name, .table _ [])] => named name
  | .table _ [(name, .array _ [])] => named name
  | _ => badSetting "dialect"
where
  named (name : String) : Except RenderError Dialect :=
    match Dialect.ofConfigName? name with
    | some dialect => .ok dialect
    | none => badSetting "dialect"

def booleanOf (name : String) : Node → Except RenderError Bool
  | .boolean value => .ok value
  | _ => badSetting name

def applyEntry (settings : Settings) (entry : String × Node) :
    Except RenderError Settings :=
  match entry with
  | ("dialect", value) => do
    let dialect ← dialectOf value
    return settings.withDialect dialect
  | ("use_parameters", value) => do
    let useParameters ← booleanOf "use_parameters" value
    return { settings with useParameters }
  | ("log_sql", value) => do
    let enabled ← booleanOf "log_sql" value
    return settings.withLog enabled
  | _ => .ok settings

def ofText (text : String) : Except RenderError Settings :=
  match readDocument text with
  | .ok (.table _ entries) => entries.foldlM applyEntry .standard
  | .ok _ => .error (.config "expected a table")
  | .error error => .error (.config error.message)

end QueryText.Settings
