import QueryText.Dialect.Literal

/-!
# Lexemes

The reader's view of a statement: which of its characters stand outside of all quotes, and what the
quoted names and texts say. Reading fails where a quotation is never closed. What the library writes
between quotes is read back as it was given, whatever characters it holds.
-/

set_option autoImplicit false

namespace QueryText

/-- A character outside of all quotes, or a quotation with what stands in it. -/
inductive Lexeme where
  | plain (character : Char)
  | name (content : List Char)
  | text (content : List Char)
  deriving DecidableEq

namespace Lexeme

def plains (lexemes : List Lexeme) : List Char :=
  lexemes.filterMap fun
    | .plain character => some character
    | _ => none

variable {left right : List Lexeme}

@[simp] theorem plains_nil : plains [] = [] := rfl

@[simp] theorem plains_plain (character : Char) :
    plains (.plain character :: right) = character :: plains right := rfl

@[simp] theorem plains_name (content : List Char) :
    plains (.name content :: right) = plains right := rfl

@[simp] theorem plains_text (content : List Char) :
    plains (.text content :: right) = plains right := rfl

@[simp] theorem plains_append : plains (left ++ right) = plains left ++ plains right :=
  List.filterMap_append

@[simp] theorem plains_map_plain (text : List Char) : plains (text.map .plain) = text := by
  induction text with
  | nil => rfl
  | cons character text ih => rw [List.map_cons, plains_plain, ih]

end Lexeme

/-!
## Quotations
-/

namespace Text

/-- What stands in a quotation that has been opened, and what follows the mark that closes it. A
mark that is written twice belongs to the content. With `escapes` a backslash says that the
character behind it belongs to the content, whichever it is. -/
def quotation? (mark : Char) (escapes : Bool) : List Char → Option (List Char × List Char)
  | [] => none
  | [character] => if character = mark then some ([], []) else none
  | character :: next :: rest =>
    if character = mark then
      if next = mark then (quotation? mark escapes rest).map (Prod.map (mark :: ·) id)
      else some ([], next :: rest)
    else if escapes = true ∧ character = '\\' then
      (quotation? mark escapes rest).map (Prod.map (next :: ·) id)
    else (quotation? mark escapes (next :: rest)).map (Prod.map (character :: ·) id)

variable {mark : Char} {escapes : Bool} {content rest after : List Char}

theorem quotation?_shorter {text : List Char}
    (read : quotation? mark escapes text = some (content, after)) :
    after.length < text.length := by
  fun_induction quotation? mark escapes text generalizing content with
  | case1 => cases read
  | case2 => cases read; simp
  | case3 => cases read
  | case4 rest ih | case6 character next rest _ _ ih =>
      obtain ⟨⟨inner, remaining⟩, innerRead, pair⟩ := Option.map_eq_some_iff.mp read
      cases pair
      have shorter := ih innerRead
      simp only [id, List.length_cons] at shorter ⊢
      omega
  | case5 => cases read; simp
  | case7 character next rest _ _ ih =>
      obtain ⟨⟨inner, remaining⟩, innerRead, pair⟩ := Option.map_eq_some_iff.mp read
      cases pair
      have shorter := ih innerRead
      simp only [id, List.length_cons] at shorter ⊢
      omega

theorem quotation?_close (follows : rest.head? ≠ some mark) :
    quotation? mark escapes (mark :: rest) = some ([], rest) := by
  cases rest with
  | nil => simp [quotation?]
  | cons next rest =>
      have different : next ≠ mark := fun same => follows (by simp [same])
      simp [quotation?, different]

theorem quotation?_mark :
    quotation? mark escapes (mark :: mark :: rest) =
      (quotation? mark escapes rest).map (Prod.map (mark :: ·) id) := by
  simp [quotation?]

theorem quotation?_ordinary {character : Char} (ordinary : character ≠ mark)
    (literal : ¬(escapes = true ∧ character = '\\')) (open_ : rest ≠ []) :
    quotation? mark escapes (character :: rest) =
      (quotation? mark escapes rest).map (Prod.map (character :: ·) id) := by
  cases rest with
  | nil => exact absurd rfl open_
  | cons next rest => rw [quotation?, if_neg ordinary, if_neg literal]

theorem quotation?_doubled (content : List Char) (follows : rest.head? ≠ some mark) :
    quotation? mark false (doubled mark content ++ mark :: rest) = some (content, rest) := by
  induction content with
  | nil => exact quotation?_close follows
  | cons character content ih =>
      rw [doubled]
      split
      · next same =>
        rw [List.cons_append, List.cons_append, quotation?_mark, ih, same]
        rfl
      · next different =>
        rw [List.cons_append, quotation?_ordinary different (by simp) (by simp), ih]
        rfl

theorem doubled_eq_self (absent : mark ∉ content) : doubled mark content = content := by
  induction content with
  | nil => rfl
  | cons character content ih =>
      rw [List.mem_cons, not_or] at absent
      rw [doubled, if_neg (Ne.symm absent.1), ih absent.2]

/-- A character that opens and closes no quotation in any dialect. -/
def isUnquoted (character : Char) : Bool :=
  !(['\'', '"', '[', ']', '\x60'].contains character)

/-- The text behind a quotation must not begin with a quote, or it would continue the quotation. -/
def Unquoted (text : List Char) : Prop :=
  ∀ character ∈ text.head?, isUnquoted character = true

theorem unquoted_nil : Unquoted [] := nofun

theorem unquoted_cons {character : Char} (unquoted : isUnquoted character = true) :
    Unquoted (character :: rest) := by
  rintro _ ⟨⟩
  exact unquoted

theorem unquoted_append {text : List Char} (left : Unquoted text) (right : Unquoted rest) :
    Unquoted (text ++ rest) := by
  cases text with
  | nil => exact right
  | cons character text => exact left

end Text

namespace Dialect

variable {dialect : Dialect} {content rest : List Char}

def escapesBackslash (dialect : Dialect) : Bool :=
  dialect = .mySql

theorem quotation?_escaped (content : List Char) (follows : rest.head? ≠ some '\'') :
    Text.quotation? '\'' dialect.escapesBackslash (dialect.escaped content ++ '\'' :: rest) =
      some (content, rest) := by
  induction content with
  | nil => exact Text.quotation?_close follows
  | cons character content ih =>
      rw [escaped]
      split
      · next quote =>
        rw [List.cons_append, List.cons_append, Text.quotation?_mark, ih, quote]
        rfl
      · next noQuote =>
        split
        · next escape =>
          obtain ⟨rfl, rfl⟩ := escape
          rw [List.cons_append, List.cons_append, Text.quotation?, if_neg noQuote,
            if_pos ⟨by decide, rfl⟩, ih]
          rfl
        · next noEscape =>
          have literal : ¬(dialect.escapesBackslash = true ∧ character = '\\') := by
            simpa [escapesBackslash, and_comm] using noEscape
          rw [List.cons_append, Text.quotation?_ordinary noQuote literal (by simp), ih]
          rfl

/-!
## Statements
-/

/-- The lexemes of a text, or nothing if a quotation in it is never closed. -/
def lexemes? (dialect : Dialect) : List Char → Option (List Lexeme)
  | [] => some []
  | character :: rest =>
    if character = dialect.openingQuote then
      match read : Text.quotation? dialect.closingQuote false rest with
      | some (content, after) =>
        have := Text.quotation?_shorter read
        (dialect.lexemes? after).map (.name content :: ·)
      | none => none
    else if character = '\'' then
      match read : Text.quotation? '\'' dialect.escapesBackslash rest with
      | some (content, after) =>
        have := Text.quotation?_shorter read
        (dialect.lexemes? after).map (.text content :: ·)
      | none => none
    else (dialect.lexemes? rest).map (.plain character :: ·)
termination_by text => text.length
decreasing_by all_goals simp only [List.length_cons]; omega

theorem openingQuote_ne {character : Char} (unquoted : Text.isUnquoted character = true) :
    character ≠ dialect.openingQuote := by
  intro same
  subst same
  cases dialect <;> exact absurd unquoted (by decide)

theorem closingQuote_ne {character : Char} (unquoted : Text.isUnquoted character = true) :
    character ≠ dialect.closingQuote := by
  intro same
  subst same
  cases dialect <;> exact absurd unquoted (by decide)

theorem lexemes?_nil : dialect.lexemes? [] = some [] := by
  rw [lexemes?]

variable {lexemes : List Lexeme}

theorem lexemes?_plain (text : List Char)
    (unquoted : ∀ character ∈ text, Text.isUnquoted character = true)
    (read : dialect.lexemes? rest = some lexemes) :
    dialect.lexemes? (text ++ rest) = some (text.map .plain ++ lexemes) := by
  induction text with
  | nil => exact read
  | cons character text ih =>
      rw [List.forall_mem_cons] at unquoted
      have noText : character ≠ '\'' := by
        intro same
        subst same
        exact absurd unquoted.1 (by decide)
      rw [List.cons_append, lexemes?, if_neg (openingQuote_ne unquoted.1), if_neg noText,
        ih unquoted.2]
      rfl

theorem lexemes?_name (read : dialect.lexemes? rest = some lexemes) (follows : Text.Unquoted rest)
    (content : List Char) :
    dialect.lexemes? (dialect.openingQuote :: Text.doubled dialect.closingQuote content ++
      dialect.closingQuote :: rest) = some (.name content :: lexemes) := by
  have ends : rest.head? ≠ some dialect.closingQuote :=
    fun head => closingQuote_ne (follows _ head) rfl
  have quotation := Text.quotation?_doubled content ends
  rw [List.cons_append, lexemes?, if_pos rfl]
  split
  · next inner after found =>
    obtain ⟨rfl, rfl⟩ : content = inner ∧ rest = after := by
      simpa [quotation] using found
    rw [read]
    rfl
  · next missing =>
    rw [quotation] at missing
    cases missing

/-- What is between text quotes and escaped is one lexeme. -/
theorem lexemes?_text (read : dialect.lexemes? rest = some lexemes) (follows : Text.Unquoted rest)
    (content : List Char) :
    dialect.lexemes? ('\'' :: dialect.escaped content ++ '\'' :: rest) =
      some (.text content :: lexemes) := by
  have ends : rest.head? ≠ some '\'' := fun head => absurd (follows _ head) (by decide)
  have quotation := dialect.quotation?_escaped content ends
  have noName : '\'' ≠ dialect.openingQuote := by cases dialect <;> decide
  rw [List.cons_append, lexemes?, if_neg noName, if_pos rfl]
  split
  · next inner after found =>
    obtain ⟨rfl, rfl⟩ : content = inner ∧ rest = after := by
      simpa [quotation] using found
    rw [read]
    rfl
  · next missing =>
    rw [quotation] at missing
    cases missing

end Dialect

end QueryText
