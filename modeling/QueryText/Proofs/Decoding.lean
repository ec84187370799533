import QueryText.Proofs.ExactArithmetic
import QueryText.Proofs.Lexeme
import QueryText.Proofs.Numeral

/-!
# Decoding literals

Literals as the product reads them where it expects a text, bytes or an integer of some width. What
a reader takes from the front of a statement is the value that was written, and it stops behind the
last character of the literal.
-/

set_option autoImplicit false

namespace QueryText

/-!
## Texts and integers
-/

namespace Text

/-- What a backslash and a character say in a text of MySql. -/
def backslashed : Char → List Char
  | '0' => ['\x00']
  | 'b' => ['\x08']
  | 'n' => ['\n']
  | 'r' => ['\r']
  | 't' => ['\t']
  | 'Z' => ['\x1A']
  | '%' => ['\\', '%']
  | '_' => ['\\', '_']
  | character => [character]

/-- The text whose opening quote has been read, and what follows its closing quote. -/
def textContent? (escapes : Bool) : List Char → Option (List Char × List Char)
  | [] => none
  | '\'' :: '\'' :: rest => (textContent? escapes rest).map (Prod.map ('\'' :: ·) id)
  | '\'' :: rest => some ([], rest)
  | '\\' :: next :: rest =>
    if escapes then (textContent? escapes rest).map (Prod.map (backslashed next ++ ·) id)
    else (textContent? escapes (next :: rest)).map (Prod.map ('\\' :: ·) id)
  | character :: rest => (textContent? escapes rest).map (Prod.map (character :: ·) id)

variable {escapes : Bool} {rest : List Char}

theorem textContent?_close (follows : rest.head? ≠ some '\'') :
    textContent? escapes ('\'' :: rest) = some ([], rest) := by
  rw [textContent?]
  rintro others rfl
  exact follows rfl

theorem textContent?_ordinary {character : Char} (noQuote : character ≠ '\'')
    (literal : ¬(character = '\\' ∧ escapes = true)) (open_ : rest ≠ []) :
    textContent? escapes (character :: rest) =
      (textContent? escapes rest).map (Prod.map (character :: ·) id) := by
  obtain ⟨next, others, rfl⟩ := List.exists_cons_of_ne_nil open_
  by_cases backslash : character = '\\'
  · subst backslash
    rw [textContent?, if_neg fun escaped => literal ⟨rfl, escaped⟩]
  · rw [textContent?]
    · exact fun _ same => absurd same noQuote
    · exact noQuote
    · exact fun _ _ same => absurd same backslash

end Text

namespace Dialect

open Text

variable {dialect : Dialect} {rest : List Char}

/-- What is escaped is read back, whatever quotes and backslashes it has and however it ends. -/
theorem textContent?_escaped (content : List Char) (follows : rest.head? ≠ some '\'') :
    textContent? dialect.escapesBackslash (dialect.escaped content ++ '\'' :: rest) =
      some (content, rest) := by
  induction content with
  | nil => exact textContent?_close follows
  | cons character content ih =>
      rw [escaped]
      split
      · next quote =>
        rw [List.cons_append, List.cons_append, textContent?, ih, quote]
        rfl
      · next noQuote =>
        split
        · next escape =>
          -- A backslash that is written twice is among what stands for itself behind a backslash.
          obtain ⟨rfl, rfl⟩ := escape
          rw [List.cons_append, List.cons_append, textContent?, if_pos (by decide), ih]
          rfl
        · next noEscape =>
          have literal : ¬(character = '\\' ∧ dialect.escapesBackslash = true) := by
            simpa [escapesBackslash] using noEscape
          rw [List.cons_append, textContent?_ordinary noQuote literal (by simp), ih]
          rfl

/-!
## Literals
-/

/-- The text whose literal stands at the front, with the mark of Unicode for SQL Server. -/
def textLiteral? (dialect : Dialect) : List Char → Option (String × List Char)
  | 'N' :: '\'' :: rest =>
    if dialect = .sqlServer then
      (textContent? dialect.escapesBackslash rest).map (Prod.map String.ofList id)
    else none
  | '\'' :: rest => (textContent? dialect.escapesBackslash rest).map (Prod.map String.ofList id)
  | _ => none

def quotedHexDigits? (text : List Char) : Option (List UInt8 × List Char) :=
  match hexDigits? text with
  | some (bytes, '\'' :: rest) => some (bytes, rest)
  | _ => none

def bytesLiteral? (dialect : Dialect) (text : List Char) : Option (List UInt8 × List Char) :=
  match dialect, text with
  | .sqlServer, '0' :: 'x' :: rest => hexDigits? rest
  | .sqlServer, _ => none
  | .postgreSql, '\'' :: '\\' :: 'x' :: rest => quotedHexDigits? rest
  | .postgreSql, _ => none
  | _, 'X' :: '\'' :: rest => quotedHexDigits? rest
  | _, _ => none

/-- The value of a type whose literal stands at the front of a text, and what follows it. -/
def literalValue? (dialect : Dialect) (dataType : DataType) (text : List Char) :
    Option (Value × List Char) :=
  match dataType with
  | .string => (dialect.textLiteral? text).map (Prod.map .text id)
  | .binary => (dialect.bytesLiteral? text).map (Prod.map .bytes id)
  | .int16 | .int32 | .int64 =>
    (integer? text).bind fun (number, rest) => (Value.ofInteger? dataType number).map (·, rest)
  | _ => none

theorem textLiteral?_quotedText (text : String) (follows : rest.head? ≠ some '\'') :
    dialect.textLiteral? ((dialect.quotedText text).toList ++ rest) = some (text, rest) := by
  have content := dialect.textContent?_escaped text.toList follows
  have quoted : (dialect.quotedText text).toList ++ rest =
      (if dialect = .sqlServer then ['N'] else []) ++
        '\'' :: (dialect.escaped text.toList ++ '\'' :: rest) := by
    simp [quotedText]
  rw [quoted]
  split
  · next unicode =>
    subst unicode
    simp [textLiteral?, content]
  · simp [textLiteral?, content]

theorem quotedHexDigits?_hexOfBytes (bytes : List UInt8) :
    quotedHexDigits? (hexOfBytes bytes ++ '\'' :: rest) = some (bytes, rest) := by
  have ends : EndsDigits isHexDigit ('\'' :: rest) := by
    simp [EndsDigits, isHexDigit, hexDigitValue?]
  rw [quotedHexDigits?, hexDigits?_hexOfBytes bytes ends]
  rfl

theorem bytesLiteral?_bytesLiteral (bytes : List UInt8) (ends : EndsDigits isHexDigit rest) :
    dialect.bytesLiteral? ((dialect.bytesLiteral bytes).toList ++ rest) = some (bytes, rest) := by
  have bare := hexDigits?_hexOfBytes bytes ends
  have quoted : quotedHexDigits? (hexOfBytes bytes ++ '\'' :: rest) = some (bytes, rest) :=
    quotedHexDigits?_hexOfBytes bytes
  cases dialect <;> simpa [bytesLiteral, bytesLiteral?]

theorem literalValue?_integer {value : Value} {number : Int}
    (denotes : value.integer? = some number) (ends : EndsDigits Char.isDigit rest) :
    dialect.literalValue? value.dataType (number.repr.toList ++ rest) = some (value, rest) := by
  have made := Value.ofInteger?_eq_some_iff.mpr ⟨rfl, denotes⟩
  cases value with
  | int16 value | int32 value | int64 value =>
      cases denotes
      rw [Value.dataType] at made ⊢
      simp only [literalValue?, Text.integer?_repr _ ends, Option.bind_some, made, Option.map_some]
  | null | bool _ | double _ | text _ | dateTime _ | date _ | uuid _ | bytes _ => cases denotes

/-- A text with which a literal does not go on. -/
def EndsLiteral (rest : List Char) : Prop :=
  ∀ character ∈ rest.head?, character ∈ [' ', ',', ')']

theorem EndsLiteral.differs {test : Char → Bool} (ends : EndsLiteral rest)
    (outside : ∀ character ∈ [' ', ',', ')'], test character = false) :
    Text.EndsDigits test rest :=
  fun character head => outside character (ends character head)

/-- A text, bytes or an integer has a literal, and a reader of values of its type takes exactly the
literal from the front of the statement and has the value back. -/
theorem literal_decodes (dialect : Dialect) {value : Value} {rest : List Char}
    (kind : value.dataType ∈ [.string, .binary, .int16, .int32, .int64])
    (ends : EndsLiteral rest) :
    ∃ text, dialect.literal value = .ok text ∧
      dialect.literalValue? value.dataType (text.toList ++ rest) = some (value, rest) := by
  have noDigit : Text.EndsDigits Char.isDigit rest := ends.differs (by decide)
  have noHexDigit : Text.EndsDigits Text.isHexDigit rest := ends.differs (by decide)
  have noQuote : rest.head? ≠ some '\'' := fun quote => absurd (ends _ quote) (by decide)
  cases value with
  | text content =>
      refine ⟨dialect.quotedText content, rfl, ?_⟩
      simp [literalValue?, Value.dataType, textLiteral?_quotedText content noQuote]
  | bytes content =>
      refine ⟨dialect.bytesLiteral content, rfl, ?_⟩
      simp [literalValue?, Value.dataType, bytesLiteral?_bytesLiteral content noHexDigit]
  | int16 number | int32 number | int64 number =>
      exact ⟨number.toInt.repr, rfl, literalValue?_integer rfl noDigit⟩
  | null | bool _ | double _ | dateTime _ | date _ | uuid _ => simp [Value.dataType] at kind

/-- A text of MySql that ends in a backslash and a quote, and the least integer of 16 bits. -/
theorem literal_decodes_sampleQuote :
    (Value.text "a'\\'").dataType ∈ [.string, .binary, .int16, .int32, .int64] ∧
    EndsLiteral ", 1)".toList ∧
    mySql.literal (.text "a'\\'") = .ok "'a''\\\\'''" ∧
    mySql.literalValue? .string "'a''\\\\''', 1)".toList =
      some (.text "a'\\'", ", 1)".toList) ∧
    (Value.int16 (-32768)).dataType ∈ [.string, .binary, .int16, .int32, .int64] ∧
    sqlite.literalValue? .int16 "-32768, 1)".toList = some (.int16 (-32768), ", 1)".toList) := by
  have ends : EndsLiteral ", 1)".toList := by simp [EndsLiteral]
  have kind : (Value.text "a'\\'").dataType ∈ [.string, .binary, .int16, .int32, .int64] := by
    decide
  have spelled : mySql.literal (.text "a'\\'") = .ok "'a''\\\\'''" := rfl
  obtain ⟨text, written, read⟩ := literal_decodes mySql kind ends
  rw [spelled] at written
  cases written
  have width : (Value.int16 (-32768)).dataType ∈ [.string, .binary, .int16, .int32, .int64] := by
    decide
  have least : sqlite.literal (.int16 (-32768)) = .ok "-32768" := rfl
  obtain ⟨number, numberWritten, numberRead⟩ := literal_decodes sqlite width ends
  rw [least] at numberWritten
  cases numberWritten
  exact ⟨kind, ends, spelled, read, width, numberRead⟩

end Dialect

end QueryText
