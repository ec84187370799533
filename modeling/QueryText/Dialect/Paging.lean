import QueryText.Dialect.Basic

/-!
# Paging

The fragment behind ORDER BY that keeps a window of the rows. Bounds are numbers of 64 bits.
-/

set_option autoImplicit false

namespace QueryText.Dialect

def pagesOnlyInOrder : Dialect → Bool
  | .sqlServer | .oracle => true
  | _ => false

/-- A window by LIMIT and OFFSET; `unlimited` is the limit that a product wants before a lone
offset. -/
def limitClause (unlimited : Option String) (limit offset : Option UInt64) : String :=
  let limitPart :=
    match limit, offset with
    | some rows, _ => " LIMIT " ++ rows.toNat.repr
    | none, some _ => (unlimited.map (" LIMIT " ++ ·)).getD ""
    | none, none => ""
  limitPart ++ (offset.map fun skipped => " OFFSET " ++ skipped.toNat.repr).getD ""

def fetchClause (limit offset : Option UInt64) : String :=
  match limit, offset with
  | none, none => ""
  | _, _ =>
    " OFFSET " ++ (offset.getD 0).toNat.repr ++ " ROWS" ++
      (limit.map fun rows => " FETCH NEXT " ++ rows.toNat.repr ++ " ROWS ONLY").getD ""

/-- A window by ROWS, whose two bounds count from one and belong to the window. An empty window
behind an offset has no such bounds. -/
def rowsClause : Option UInt64 → Option UInt64 → Except RenderError String
  | none, none => .ok ""
  | some rows, none => .ok (" ROWS " ++ rows.toNat.repr)
  | none, some skipped => .ok (" OFFSET " ++ skipped.toNat.repr ++ " ROWS")
  | some rows, some skipped =>
    if rows = 0 then
      .error (.validation "Firebird ROWS paging cannot combine LIMIT 0 with an offset")
    else if skipped.toNat + 1 < UInt64.size ∧ skipped.toNat + rows.toNat < UInt64.size then
      .ok (" ROWS " ++ (skipped.toNat + 1).repr ++ " TO " ++ (skipped.toNat + rows.toNat).repr)
    else
      .error (.validation ("ROWS range for offset " ++ skipped.toNat.repr ++ " and limit " ++
        rows.toNat.repr ++ " overflows"))

/-- The paging fragment; it is empty without bounds. -/
def pagingText (dialect : Dialect) (limit offset : Option UInt64) : Except RenderError String :=
  match dialect with
  | .sqlite => .ok (limitClause (some "-1") limit offset)
  | .mySql => .ok (limitClause (some "18446744073709551615") limit offset)
  | .postgreSql => .ok (limitClause none limit offset)
  | .sqlServer | .oracle => .ok (fetchClause limit offset)
  | .firebird => rowsClause limit offset

end QueryText.Dialect
