import Mathlib.Data.List.Forall2
import QueryText.Proofs.Reading

/-!
# Reading quoted names

A quoted name as the product reads it: quotations with points between them, in which a closing quote
that is written twice stands for itself. The products that keep names read back the parts of the
name that was quoted, whatever quotes and points are in it. The others fold each part to words in
upper case, among which there is no quote.
-/

set_option autoImplicit false

namespace QueryText.Dialect

/-- What the quotation at the front of a text encloses, and what follows it. -/
def readPart? (dialect : Dialect) : List Char → Option (List Char × List Char)
  | [] => none
  | character :: rest =>
    if character = dialect.openingQuote then Text.quotation? dialect.closingQuote false rest
    else none

variable {dialect : Dialect} {part rest after : List Char} {parts : List (List Char)}

theorem readPart?_shorter {text : List Char} (read : dialect.readPart? text = some (part, after)) :
    after.length < text.length := by
  unfold readPart? at read
  split at read
  · cases read
  · split at read
    · have shorter := Text.quotation?_shorter read
      rw [List.length_cons]
      omega
    · cases read

theorem readPart?_quotedPart (part : List Char) (ends : rest.head? ≠ some dialect.closingQuote) :
    dialect.readPart? (dialect.quotedPart part ++ rest) =
      some (dialect.nameContent part, rest) := by
  rw [quotedPart, quotedContent_eq, List.append_assoc, List.cons_append, readPart?, if_pos rfl]
  exact Text.quotation?_doubled _ ends

/-- The parts of the quoted name at the front of a text, and what follows it. -/
def readName? (dialect : Dialect) (text : List Char) : Option (List (List Char) × List Char) :=
  match read : dialect.readPart? text with
  | some (part, '.' :: after) =>
    have := readPart?_shorter read
    (dialect.readName? after).map (Prod.map (part :: ·) id)
  | some (part, after) => some ([part], after)
  | none => none
termination_by text.length
decreasing_by rw [List.length_cons] at this; omega

theorem readName?_eq {text : List Char} :
    dialect.readPart? text = some (part, after) →
      dialect.readName? text =
        match after with
        | '.' :: rest => (dialect.readName? rest).map (Prod.map (part :: ·) id)
        | _ => some ([part], after) := by
  intro read
  rw [readName?]
  split
  · next found =>
    rw [read] at found
    cases found
    rfl
  · next noPoint found =>
    rw [read] at found
    cases found
    split
    · exact absurd rfl (noPoint _)
    · rfl
  · next missing =>
    rw [read] at missing
    cases missing

/-- A text with which a quoted name does not go on. -/
def EndsName (dialect : Dialect) (rest : List Char) : Prop :=
  rest.head? ≠ some dialect.closingQuote ∧ rest.head? ≠ some '.'

theorem readName?_last (part : List Char) (ends : dialect.EndsName rest) :
    dialect.readName? (dialect.quotedPart part ++ rest) =
      some ([dialect.nameContent part], rest) := by
  rw [readName?_eq (readPart?_quotedPart part ends.1)]
  split
  · exact absurd rfl ends.2
  · rfl

theorem readName?_next (part : List Char) (read : dialect.readName? rest = some (parts, after)) :
    dialect.readName? (dialect.quotedPart part ++ '.' :: rest) =
      some (dialect.nameContent part :: parts, after) := by
  have point : ('.' :: rest).head? ≠ some dialect.closingQuote := by
    cases dialect <;> simp [closingQuote]
  rw [readName?_eq (readPart?_quotedPart part point)]
  exact congrArg (Option.map _) read

theorem readName?_joined (ends : dialect.EndsName rest) (filled : parts ≠ []) :
    dialect.readName? (['.'].intercalate (parts.map dialect.quotedPart) ++ rest) =
      some (parts.map dialect.nameContent, rest) := by
  induction parts with
  | nil => exact absurd rfl filled
  | cons part others ih =>
      cases others with
      | nil =>
          rw [List.map_singleton, List.intercalate_singleton]
          exact readName?_last part ends
      | cons next others =>
          have read := readName?_next part (ih (List.cons_ne_nil _ _))
          simpa [List.intercalate_cons_cons] using read

theorem readName?_quotedName (name : String) (ends : dialect.EndsName rest) :
    dialect.readName? ((dialect.quotedName name).toList ++ rest) =
      some ((nameParts name).map dialect.nameContent, rest) := by
  rw [quotedName, String.toList_ofList]
  exact readName?_joined ends (List.splitOn_ne_nil '.' name.toList)

/-- Without folding a name is read back as its parts. -/
theorem nameContent_kept (kept : dialect.foldsNames = false) (parts : List (List Char)) :
    parts.map dialect.nameContent = parts := by
  have same : dialect.nameContent = id := by
    funext part
    rw [nameContent, kept]
    rfl
  rw [same, List.map_id]

theorem nameParts_injective {name other : String} (same : nameParts name = nameParts other) :
    name = other := by
  have joined := congrArg (List.intercalate ['.']) same
  rw [nameParts, nameParts, List.intercalate_splitOn, List.intercalate_splitOn] at joined
  exact String.toList_inj.mp joined

/-- A part of a name in upper snake case: its words, which hold nothing but alphanumeric characters,
in upper case with underscores between them, and no quote. -/
def Folds (part content : List Char) : Prop :=
  content = ['_'].intercalate ((Text.words (String.ofList part)).map Text.upperWord) ∧
    (∀ word ∈ Text.words (String.ofList part), ∀ character ∈ word,
      Text.isAlphanumeric character = true) ∧
    '"' ∉ content

theorem folds_nameContent (folded : dialect.foldsNames = true) (part : List Char) :
    Folds part (dialect.nameContent part) := by
  have quoteFree := Text.quote_notMem_screamingSnakeCase (String.ofList part)
  rw [nameContent, if_pos folded]
  refine ⟨?_, Text.words_alphanumeric _, quoteFree⟩
  rw [Text.NamingRule.apply, String.toList_ofList]

theorem quotedPart_folded (folded : dialect.foldsNames = true) (part : List Char) :
    dialect.quotedPart part = '"' :: dialect.nameContent part ++ ['"'] := by
  have marks : dialect.openingQuote = '"' ∧ dialect.closingQuote = '"' := by
    cases dialect <;> first | exact ⟨rfl, rfl⟩ | cases folded
  rw [quotedPart, quotedContent, nameContent, if_pos folded, if_pos folded, marks.1, marks.2]

/-- Every dialect reads a quoted name back up to where it ends. SqlServer, Sqlite, MySql and
PostgreSql read the parts that the name has between its points, so that no two names are quoted
alike. Oracle and Firebird have each part, folded, in one pair of quotes. -/
theorem quotedName_decodes (dialect : Dialect) (name : String) :
    (dialect ∈ [.sqlServer, .sqlite, .mySql, .postgreSql] →
      (∀ rest, dialect.EndsName rest →
        dialect.readName? ((dialect.quotedName name).toList ++ rest) =
          some (name.toList.splitOn '.', rest)) ∧
      ∀ other, dialect.quotedName other = dialect.quotedName name → other = name) ∧
    (dialect ∈ [.oracle, .firebird] →
      ∃ contents, (name.toList.splitOn '.').Forall₂ Folds contents ∧
        (dialect.quotedName name).toList =
          ['.'].intercalate (contents.map fun content => '"' :: content ++ ['"']) ∧
        ∀ rest, dialect.EndsName rest →
          dialect.readName? ((dialect.quotedName name).toList ++ rest) =
            some (contents, rest)) := by
  constructor
  · intro keeps
    have kept : dialect.foldsNames = false := by revert keeps; cases dialect <;> decide
    have read : ∀ name rest, dialect.EndsName rest →
        dialect.readName? ((dialect.quotedName name).toList ++ rest) =
          some (nameParts name, rest) := by
      intro name rest ends
      rw [readName?_quotedName name ends, nameContent_kept kept]
    refine ⟨read name, fun other same => ?_⟩
    have whole : dialect.EndsName [] := ⟨nofun, nofun⟩
    have parts := read other [] whole
    rw [same, read name [] whole] at parts
    exact nameParts_injective (Prod.mk.inj (Option.some.inj parts)).1.symm
  · intro folds
    have folded : dialect.foldsNames = true := by revert folds; cases dialect <;> decide
    refine ⟨(nameParts name).map dialect.nameContent, ?_, ?_,
      fun rest ends => readName?_quotedName name ends⟩
    · exact List.forall₂_map_right_iff.mpr
        (List.forall₂_same.mpr fun part _ => folds_nameContent folded part)
    · rw [quotedName, String.toList_ofList, List.map_map]
      congr 1
      exact List.map_congr_left fun part _ => quotedPart_folded folded part

/-- A name of quotes and points, and one with a quote that folding drops. -/
theorem quotedName_decodes_sampleBrackets :
    sqlServer ∈ [.sqlServer, .sqlite, .mySql, .postgreSql] ∧ sqlServer.EndsName " = 1".toList ∧
    sqlServer.readName? "[]]].[[].[].[] = 1".toList =
      some (["]", "[", "", ""].map String.toList, " = 1".toList) ∧
    oracle ∈ [.oracle, .firebird] ∧ oracle.EndsName [] ∧
    ∃ contents, oracle.readName? "\"ORDER_LINE\".\"ID\"".toList = some (contents, []) ∧
      ["order\"Line".toList, "id".toList].Forall₂ Folds contents := by
  have keeps : sqlServer ∈ [.sqlServer, .sqlite, .mySql, .postgreSql] := by decide
  have ends : sqlServer.EndsName " = 1".toList := ⟨by decide, by decide⟩
  have folds : oracle ∈ [.oracle, .firebird] := by decide
  have whole : oracle.EndsName [] := ⟨nofun, nofun⟩
  have read := ((quotedName_decodes sqlServer "].[..").1 keeps).1 _ ends
  obtain ⟨contents, folded, -, decoded⟩ := (quotedName_decodes oracle "order\"Line.id").2 folds
  have quoted : oracle.quotedName "order\"Line.id" = "\"ORDER_LINE\".\"ID\"" := by decide +kernel
  have foldedRead := decoded [] whole
  rw [quoted, List.append_nil] at foldedRead
  exact ⟨keeps, ends, read, folds, whole, contents, foldedRead, folded⟩

end QueryText.Dialect
