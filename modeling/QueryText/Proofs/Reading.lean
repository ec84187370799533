import QueryText.Parameter
import QueryText.Proofs.Lexeme
import QueryText.Proofs.Spelling
import QueryText.Proofs.Words

/-!
# Reading names and values

The lexemes of everything that a fragment takes from its caller: quoted names, literals and markers.
Each of them ends where its last quote or character ends, as long as no quote follows.
-/

set_option autoImplicit false

namespace QueryText

namespace Dialect

variable {dialect : Dialect} {rest : List Char} {lexemes : List Lexeme}

/-!
## Names
-/

/-- What the quotes around a part of a name enclose once a doubled quote is read as one. -/
def nameContent (dialect : Dialect) (part : List Char) : List Char :=
  if dialect.foldsNames then
    (Text.NamingRule.screamingSnakeCase.apply (String.ofList part)).toList
  else part

/-- The lexemes of a name: its parts with points between them. -/
def nameLexemes (dialect : Dialect) (name : String) : List Lexeme :=
  List.intercalate [.plain '.']
    ((nameParts name).map fun part => [.name (dialect.nameContent part)])

theorem quotedContent_eq (part : List Char) :
    dialect.quotedContent part = Text.doubled dialect.closingQuote (dialect.nameContent part) := by
  unfold quotedContent nameContent
  by_cases folds : dialect.foldsNames = true
  · have quote : dialect.closingQuote = '"' := by cases dialect <;> first | rfl | cases folds
    rw [if_pos folds, if_pos folds, quote,
      Text.doubled_eq_self (Text.quote_notMem_screamingSnakeCase _)]
  · rw [if_neg folds, if_neg folds]

private theorem lexemes?_parts (read : dialect.lexemes? rest = some lexemes)
    (follows : Text.Unquoted rest) {parts : List (List Char)} (filled : parts ≠ []) :
    dialect.lexemes? (List.intercalate ['.'] (parts.map dialect.quotedPart) ++ rest) =
      some (List.intercalate [.plain '.'] (parts.map fun part => [.name (dialect.nameContent part)])
        ++ lexemes) := by
  induction parts with
  | nil => exact absurd rfl filled
  | cons part others ih =>
      cases others with
      | nil =>
          simp only [List.map_cons, List.map_nil, List.intercalate_singleton, quotedPart,
            quotedContent_eq, List.append_assoc, List.cons_append, List.nil_append]
          exact lexemes?_name read follows _
      | cons next others =>
          have point := lexemes?_plain ['.'] (by decide) (ih (by simp))
          have quoted := lexemes?_name point (Text.unquoted_cons (by decide))
            (dialect.nameContent part)
          simp only [List.map_cons, List.intercalate_cons_cons, quotedPart, quotedContent_eq,
            List.append_assoc, List.cons_append, List.nil_append] at quoted ⊢
          exact quoted

theorem lexemes?_quotedName (read : dialect.lexemes? rest = some lexemes)
    (follows : Text.Unquoted rest) (name : String) :
    dialect.lexemes? ((dialect.quotedName name).toList ++ rest) =
      some (dialect.nameLexemes name ++ lexemes) := by
  rw [quotedName, String.toList_ofList]
  exact lexemes?_parts read follows (List.splitOn_ne_nil '.' name.toList)

theorem plains_nameLexemes (name : String) :
    ∀ character ∈ Lexeme.plains (dialect.nameLexemes name), character = '.' := by
  have points : ∀ parts : List (List Char), ∀ character ∈ Lexeme.plains
      (List.intercalate [.plain '.'] (parts.map fun part => [.name (dialect.nameContent part)])),
      character = '.' := by
    intro parts
    induction parts with
    | nil => simp
    | cons part others ih =>
        cases others with
        | nil => simp
        | cons next others =>
            rw [List.map_cons, List.map_cons, List.intercalate_cons_cons, Lexeme.plains_append]
            exact List.forall_mem_append.mpr ⟨by simp, ih⟩
  exact points _

/-!
## Literals
-/

def dateLexemes (dialect : Dialect) (text format : String) : List Lexeme :=
  if dialect = .oracle then
    "TO_DATE(".toList.map .plain ++
      [.text text.toList, .plain ',', .text format.toList, .plain ')']
  else [.text text.toList]

def bytesLexemes (dialect : Dialect) (bytes : List UInt8) : List Lexeme :=
  match dialect with
  | .sqlServer => ('0' :: 'x' :: Text.hexOfBytes bytes).map .plain
  | .postgreSql => [.text ('\\' :: 'x' :: Text.hexOfBytes bytes)]
  | _ => [.plain 'X', .text (Text.hexOfBytes bytes)]

def literalLexemes (dialect : Dialect) : Value → List Lexeme
  | .text value =>
    if dialect = .sqlServer then [.plain 'N', .text value.toList] else [.text value.toList]
  | .dateTime value => dialect.dateLexemes value.text "YYYY-MM-DD HH24:MI:SS"
  | .date value => dialect.dateLexemes value.text "YYYY-MM-DD"
  | .uuid value => [.text value.text.toList]
  | .bytes value => dialect.bytesLexemes value
  | value => (dialect.literalText value).toList.map .plain

/-- What holds no quote and, for MySql, no backslash is written between quotes as it is. -/
theorem escaped_eq_self {content : List Char} (noQuote : '\'' ∉ content)
    (noEscape : dialect = .mySql → '\\' ∉ content) : dialect.escaped content = content := by
  induction content with
  | nil => rfl
  | cons character content ih =>
      rw [List.mem_cons, not_or] at noQuote
      have ordinary : ¬(character = '\\' ∧ dialect = .mySql) := by
        intro given
        obtain ⟨rfl, product⟩ := given
        exact noEscape product (List.mem_cons_self ..)
      rw [escaped, if_neg (Ne.symm noQuote.1), if_neg ordinary,
        ih noQuote.2 fun product member => noEscape product (List.mem_cons_of_mem _ member)]

theorem lexemes?_bareText (read : dialect.lexemes? rest = some lexemes)
    (follows : Text.Unquoted rest) {content : List Char} (noQuote : '\'' ∉ content)
    (noEscape : dialect = .mySql → '\\' ∉ content) :
    dialect.lexemes? ('\'' :: content ++ '\'' :: rest) = some (.text content :: lexemes) := by
  have quoted := lexemes?_text read follows content
  rwa [escaped_eq_self noQuote noEscape] at quoted

private theorem lexemes?_bare (read : dialect.lexemes? rest = some lexemes)
    (follows : Text.Unquoted rest) {content : List Char}
    (bare : ∀ character ∈ content, Text.isBare character = true) :
    dialect.lexemes? ('\'' :: content ++ '\'' :: rest) = some (.text content :: lexemes) :=
  lexemes?_bareText read follows (fun member => absurd (bare _ member) (by decide))
    fun _ member => absurd (bare _ member) (by decide)

private theorem lexemes?_date (read : dialect.lexemes? rest = some lexemes)
    (follows : Text.Unquoted rest) {text format : String}
    (bareText : ∀ character ∈ text.toList, Text.isBare character = true)
    (bareFormat : ∀ character ∈ format.toList, Text.isBare character = true) :
    dialect.lexemes? ((dialect.dateLiteral text format).toList ++ rest) =
      some (dialect.dateLexemes text format ++ lexemes) := by
  unfold dateLiteral dateLexemes
  split
  · have closed := lexemes?_plain [')'] (by decide) read
    have formatted := lexemes?_bare closed (Text.unquoted_cons (by decide)) bareFormat
    have separated := lexemes?_plain [','] (by decide) formatted
    have written := lexemes?_bare separated (Text.unquoted_cons (by decide)) bareText
    have called := lexemes?_plain "TO_DATE(".toList (by decide) written
    simpa [String.toList_append] using called
  · have written := lexemes?_bare read follows bareText
    simpa [String.toList_append] using written

private theorem isUnquoted_of_isAlphanum {character : Char}
    (alphanumeric : character.isAlphanum = true) : Text.isUnquoted character = true := by
  simp only [Text.isUnquoted, Bool.not_eq_true', List.contains_eq_mem, decide_eq_false_iff_not,
    List.mem_cons, List.not_mem_nil, or_false, not_or]
  refine ⟨?_, ?_, ?_, ?_, ?_⟩ <;> (rintro rfl; exact absurd alphanumeric (by decide))

private theorem isUnquoted_of_isNumeric {character : Char}
    (numeric : Text.isNumeric character = true) : Text.isUnquoted character = true := by
  rcases Bool.or_eq_true_iff.mp numeric with alphanumeric | point
  · exact isUnquoted_of_isAlphanum alphanumeric
  · rw [eq_of_beq point]
    decide

private theorem lexemes?_signed (read : dialect.lexemes? rest = some lexemes) {negative : Bool}
    {text : List Char} (signed : Text.Signed negative text) :
    dialect.lexemes? (text ++ rest) = some (text.map .plain ++ lexemes) := by
  obtain ⟨magnitude, rfl, _, numeric⟩ := signed
  refine lexemes?_plain _ (List.forall_mem_append.mpr ⟨?_, fun character member =>
    isUnquoted_of_isNumeric (numeric character member)⟩) read
  cases negative <;> decide

theorem quote_notMem_hexadecimal (bytes : List UInt8) :
    '\'' ∉ '\\' :: 'x' :: Text.hexOfBytes bytes := by
  intro member
  have quote : '\'' ∈ Text.hexOfBytes bytes := by simpa using member
  exact absurd (Text.bare_hexOfBytes bytes _ quote) (by decide)

private theorem lexemes?_bytes (read : dialect.lexemes? rest = some lexemes)
    (follows : Text.Unquoted rest) (bytes : List UInt8) :
    dialect.lexemes? ((dialect.bytesLiteral bytes).toList ++ rest) =
      some (dialect.bytesLexemes bytes ++ lexemes) := by
  have digits := Text.hexOfBytes_alphanumeric bytes
  have hexadecimal : ∀ {dialect : Dialect}, dialect.lexemes? rest = some lexemes →
      dialect.lexemes? ('X' :: '\'' :: Text.hexOfBytes bytes ++ '\'' :: rest) =
        some (.plain 'X' :: .text (Text.hexOfBytes bytes) :: lexemes) := fun read =>
    lexemes?_plain ['X'] (by decide) (lexemes?_bare read follows (Text.bare_hexOfBytes bytes))
  cases dialect with
  | sqlServer =>
      have plain : ∀ character ∈ '0' :: 'x' :: Text.hexOfBytes bytes,
          Text.isUnquoted character = true :=
        List.forall_mem_cons.mpr ⟨by decide, List.forall_mem_cons.mpr ⟨by decide,
          fun character member => isUnquoted_of_isAlphanum (digits character member)⟩⟩
      simpa [bytesLiteral, bytesLexemes] using lexemes?_plain _ plain read
  | postgreSql =>
      have quoted := lexemes?_bareText read follows (quote_notMem_hexadecimal bytes) fun product => by
        cases product
      simpa [bytesLiteral, bytesLexemes] using quoted
  | sqlite | mySql | oracle | firebird =>
      simpa [bytesLiteral, bytesLexemes] using hexadecimal read

theorem lexemes?_literal (read : dialect.lexemes? rest = some lexemes)
    (follows : Text.Unquoted rest) {value : Value} (writable : value.hasLiteral = true) :
    dialect.lexemes? ((dialect.literalText value).toList ++ rest) =
      some (dialect.literalLexemes value ++ lexemes) := by
  cases value with
  | null => exact lexemes?_plain "NULL".toList (by decide) read
  | bool value => exact lexemes?_plain _ (by cases dialect <;> cases value <;> decide) read
  | int16 value | int32 value | int64 value => exact lexemes?_signed read (Text.int_inFigures _).signed
  | double value => exact lexemes?_signed read (Decimal.double_inFigures writable).signed
  | text value =>
      have quoted := lexemes?_text read follows value.toList
      by_cases unicode : dialect = .sqlServer
      · have marked := lexemes?_plain ['N'] (by decide) quoted
        simpa [literalText, quotedText, literalLexemes, unicode] using marked
      · simpa [literalText, quotedText, literalLexemes, unicode] using quoted
  | dateTime value =>
      exact lexemes?_date read follows (Text.bare_dateTime value) (by decide)
  | date value => exact lexemes?_date read follows (Text.bare_date value) (by decide)
  | uuid value =>
      have quoted := lexemes?_bare read follows (Text.bare_uuid value)
      simpa [literalText, literalLexemes, String.toList_append] using quoted
  | bytes value => exact lexemes?_bytes read follows value

/-!
## The current time and markers
-/

def nowLexemes (dialect : Dialect) : List Lexeme :=
  match dialect with
  | .sqlite =>
    "DATETIME(CURRENT_TIMESTAMP, ".toList.map .plain ++ [.text "localtime".toList, .plain ')']
  | _ => dialect.now.toList.map .plain

theorem lexemes?_now (read : dialect.lexemes? rest = some lexemes) :
    dialect.lexemes? (dialect.now.toList ++ rest) = some (dialect.nowLexemes ++ lexemes) := by
  cases dialect with
  | sqlite =>
      have called : Dialect.now .sqlite = "DATETIME(CURRENT_TIMESTAMP, " ++ "'localtime'" ++ ")" :=
        by decide
      have closed := lexemes?_plain [')'] (by decide) read
      have bare : ∀ character ∈ "localtime".toList, Text.isBare character = true := by decide
      have quoted := lexemes?_bare closed (Text.unquoted_cons (by decide)) bare
      have read := lexemes?_plain "DATETIME(CURRENT_TIMESTAMP, ".toList (by decide) quoted
      rw [called, String.toList_append, String.toList_append, List.append_assoc, List.append_assoc]
      exact read
  | sqlServer | mySql | postgreSql | oracle | firebird =>
      exact lexemes?_plain _ (by decide) read

end Dialect

theorem isNameCharacter_of_isAlphanum {character : Char}
    (alphanumeric : character.isAlphanum = true) : isNameCharacter character = true := by
  simp [isNameCharacter, alphanumeric]

theorem parameterName_nameCharacter (base : String) (position : Nat) :
    ∀ character ∈ (parameterName base position).toList, isNameCharacter character = true := by
  have marked : ∀ character ∈ (markerBase base).toList, isNameCharacter character = true := by
    intro character member
    rw [markerBase, String.toList_ofList] at member
    obtain ⟨original, _, rfl⟩ := List.mem_map.mp member
    split
    · assumption
    · decide
  rw [parameterName, String.toList_append, String.toList_append]
  refine List.forall_mem_append.mpr ⟨List.forall_mem_append.mpr ⟨marked, by decide⟩, ?_⟩
  exact fun character member =>
    isNameCharacter_of_isAlphanum (Text.repr_alphanumeric position character member)

namespace Dialect

variable {dialect : Dialect} {rest : List Char} {lexemes : List Lexeme}

private theorem isUnquoted_of_isNameCharacter {character : Char}
    (inName : isNameCharacter character = true) : Text.isUnquoted character = true := by
  rcases Bool.or_eq_true_iff.mp inName with alphanumeric | underscore
  · exact isUnquoted_of_isAlphanum alphanumeric
  · rw [eq_of_beq underscore]
    decide

theorem lexemes?_marker (read : dialect.lexemes? rest = some lexemes) (base : String)
    (position : Nat) :
    dialect.lexemes? ((dialect.marker (parameterName base position)).toList ++ rest) =
      some ((dialect.markerSign :: (parameterName base position).toList).map .plain ++
        lexemes) := by
  rw [marker, String.toList_ofList]
  refine lexemes?_plain _ (List.forall_mem_cons.mpr ⟨by cases dialect <;> decide, ?_⟩) read
  exact fun character member =>
    isUnquoted_of_isNameCharacter (parameterName_nameCharacter base position character member)

/-!
## Outside of the quotes
-/

/-- A character of a literal or of the current time outside of its quotes, the sign apart. -/
def isTermCharacter (character : Char) : Bool :=
  Text.isNumeric character || "(),_ ".toList.contains character

private theorem isTermCharacter_of_isAlphanum {character : Char}
    (alphanumeric : character.isAlphanum = true) : isTermCharacter character = true := by
  simp [isTermCharacter, Text.isNumeric_of_isAlphanum alphanumeric]

theorem plains_nowLexemes :
    ∀ character ∈ Lexeme.plains dialect.nowLexemes, isTermCharacter character = true := by
  cases dialect <;> decide

private theorem plains_dateLexemes (text format : String) :
    ∀ character ∈ Lexeme.plains (dialect.dateLexemes text format),
      isTermCharacter character = true := by
  unfold dateLexemes
  split
  · rw [Lexeme.plains_append, Lexeme.plains_map_plain]
    exact List.forall_mem_append.mpr ⟨by decide, by simp [isTermCharacter]⟩
  · simp

private theorem plains_bytesLexemes (bytes : List UInt8) :
    ∀ character ∈ Lexeme.plains (dialect.bytesLexemes bytes),
      isTermCharacter character = true := by
  cases dialect with
  | sqlServer =>
      rw [bytesLexemes, Lexeme.plains_map_plain]
      exact List.forall_mem_cons.mpr ⟨by decide, List.forall_mem_cons.mpr ⟨by decide,
        fun character member =>
          isTermCharacter_of_isAlphanum (Text.hexOfBytes_alphanumeric bytes character member)⟩⟩
  | postgreSql => simp [bytesLexemes]
  | sqlite | mySql | oracle | firebird =>
      simp [bytesLexemes, isTermCharacter, Text.isNumeric]

/-- The lexemes of a literal are a minus for a negative number, and then something in which outside
of all quotes no other sign occurs. -/
theorem literalLexemes_eq {value : Value} (writable : value.hasLiteral = true) :
    ∃ body, dialect.literalLexemes value =
        (if value.isNegative then [.plain '-'] else []) ++ body ∧ body ≠ [] ∧
      ∀ character ∈ Lexeme.plains body, isTermCharacter character = true := by
  have signed : ∀ {negative : Bool} {text : List Char}, Text.Signed negative text →
      ∃ body, text.map Lexeme.plain = (if negative then [.plain '-'] else []) ++ body ∧ body ≠ [] ∧
        ∀ character ∈ Lexeme.plains body, isTermCharacter character = true := by
    rintro negative _ ⟨magnitude, rfl, filled, numeric⟩
    refine ⟨magnitude.map .plain, by cases negative <;> rfl, by simpa using filled, ?_⟩
    rw [Lexeme.plains_map_plain]
    exact fun character member => by simp [isTermCharacter, numeric character member]
  cases value with
  | null => exact ⟨"NULL".toList.map .plain, rfl, by decide, by decide⟩
  | bool value =>
      refine ⟨(dialect.boolLiteral value).toList.map .plain, rfl, ?_, ?_⟩ <;>
        cases dialect <;> cases value <;> decide
  | int16 value | int32 value | int64 value => exact signed (Text.int_inFigures _).signed
  | double value => exact signed (Decimal.double_inFigures writable).signed
  | text value =>
      refine ⟨dialect.literalLexemes (.text value), rfl, ?_, ?_⟩ <;>
        by_cases unicode : dialect = .sqlServer <;>
          simp [literalLexemes, unicode, isTermCharacter, Text.isNumeric]
  | dateTime value | date value =>
      refine ⟨dialect.dateLexemes value.text _, rfl, ?_, plains_dateLexemes _ _⟩
      unfold dateLexemes
      split <;> simp
  | uuid value => exact ⟨[.text value.text.toList], rfl, List.cons_ne_nil _ _, by simp⟩
  | bytes value =>
      refine ⟨dialect.bytesLexemes value, rfl, ?_, plains_bytesLexemes _⟩
      cases dialect <;> simp [bytesLexemes]

end Dialect

end QueryText
