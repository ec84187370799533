import QueryText.Fragment

/-!
# Rendered statements

The text of a statement with its parameters, and the report that the log gets about a rendering.
-/

set_option autoImplicit false

namespace QueryText

structure Rendered where
  sql : String
  parameters : Parameters
  deriving BEq

namespace Rendered

def describe (rendered : Rendered) (dialect : Dialect) : String :=
  rendered.sql ++ ";" ++ rendered.parameters.describe dialect

def display (rendered : Rendered) : String :=
  rendered.sql ++ ";" ++ rendered.parameters.display

end Rendered

def Fragment.rendered (settings : Settings) (fragment : Fragment) : Rendered :=
  ⟨fragment.text settings 0, fragment.bind settings .empty⟩

/-!
## Reports
-/

/-- The nearest position at or before `position` at which a text can be cut. Positions are counted
in bytes; a text can be cut where a character begins and at its end. -/
def boundaryBefore (text : String) : Nat → Nat
  | 0 => 0
  | position + 1 =>
    if String.Pos.Raw.isValid text ⟨position + 1⟩ then position + 1
    else boundaryBefore text position

theorem boundaryBefore_valid (text : String) (position : Nat) :
    String.Pos.Raw.IsValid text ⟨boundaryBefore text position⟩ := by
  induction position with
  | zero => exact String.Pos.Raw.isValid_zero
  | succ position ih =>
      rw [boundaryBefore]
      split
      · next valid => exact String.Pos.Raw.isValid_eq_true_iff.mp valid
      · exact ih

def boundary (text : String) (position : Nat) : text.Pos :=
  text.pos ⟨boundaryBefore text position⟩ (boundaryBefore_valid text position)

/-- The beginning of a text up to the nearest boundary at or before `position`. -/
def beginning (text : String) (position : Nat) : String :=
  (text.sliceTo (boundary text position)).copy

/-- A text cut to at most `limit` bytes; dots stand for what is missing. -/
def truncated (limit : Nat) (text : String) : String :=
  if text.utf8ByteSize ≤ limit then text else beginning text limit ++ "..."

/-- The size in bytes beyond which the log shows only the beginning of a statement. -/
def reportedBytes : Nat := 200

inductive Report where
  | success (sql parameters : String)
  | failure (error : String)
  deriving DecidableEq

namespace Report

def level : Report → String
  | .success _ _ => "DEBUG"
  | .failure _ => "WARN"

def message : Report → String
  | .success _ _ => "rendered statement"
  | .failure _ => "statement rendering failed"

end Report

structure LogEvent where
  kind : String
  dialect : String
  report : Report
  deriving DecidableEq

abbrev Outcome := Except RenderError Rendered

def Outcome.report (dialect : Dialect) : Outcome → Report
  | .ok rendered =>
    .success (truncated reportedBytes rendered.sql) (rendered.parameters.describe dialect)
  | .error error => .failure error.message

structure Logged where
  outcome : Outcome
  event : Option LogEvent

def Outcome.logged (kind : String) (settings : Settings) (outcome : Outcome) : Logged :=
  { outcome
    event :=
      if settings.logSql then some ⟨kind, settings.dialect.name, outcome.report settings.dialect⟩
      else none }

end QueryText
