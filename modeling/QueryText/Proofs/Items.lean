import QueryText.Proofs.Reading

/-!
# Items of a list

A reader cuts a list at the commas outside of quotations and of inner parentheses. Quoted names,
markers, literals and the current time are items that stay whole, whatever commas, parentheses and
quotes they hold.
-/

set_option autoImplicit false

namespace QueryText

/-!
## Cutting
-/

/-- A quotation that has been opened, as it stands with the mark that closes it, and what
follows. -/
def Text.quoted? (mark : Char) (escapes : Bool) (text : List Char) :
    Option (List Char × List Char) :=
  (quotation? mark escapes text).map fun quotation =>
    (text.take (text.length - quotation.2.length), quotation.2)

namespace Text

variable {mark : Char} {escapes : Bool} {text quoted content rest after : List Char}

theorem quoted?_shorter (read : quoted? mark escapes text = some (quoted, after)) :
    after.length < text.length := by
  obtain ⟨⟨content, behind⟩, found, same⟩ := Option.map_eq_some_iff.mp read
  cases same
  exact quotation?_shorter found

theorem quoted?_append (read : quotation? mark escapes (quoted ++ rest) = some (content, rest)) :
    quoted? mark escapes (quoted ++ rest) = some (quoted, rest) := by
  rw [quoted?, read, Option.map_some, List.length_append, Nat.add_sub_cancel, List.take_left]

/-- Items with a text in front of the first. -/
def prepended (front : List Char) (items : Option (List (List Char))) :
    Option (List (List Char)) :=
  items.map (List.modifyHead (front ++ ·))

theorem prepended_nil (items : Option (List (List Char))) : prepended [] items = items := by
  rcases items with _ | _ | _ <;> rfl

theorem prepended_append (front back : List Char) (items : Option (List (List Char))) :
    prepended front (prepended back items) = prepended (front ++ back) items := by
  rcases items with _ | _ | _ <;> simp [prepended]

end Text

namespace Dialect

open Text (prepended)

/-- The items of a list, cut at its commas outside of all quotations and parentheses; `depth` is the
number of parentheses that are open. -/
def items? (dialect : Dialect) (depth : Nat) : List Char → Option (List (List Char))
  | [] => if depth = 0 then some [[]] else none
  | character :: rest =>
    if character = dialect.openingQuote then
      match read : Text.quoted? dialect.closingQuote false rest with
      -- The quotation stays in the item as it stands, with its marks.
      | some (quoted, after) =>
        have := Text.quoted?_shorter read
        prepended (character :: quoted) (dialect.items? depth after)
      | none => none
    else if character = '\'' then
      match read : Text.quoted? '\'' dialect.escapesBackslash rest with
      | some (quoted, after) =>
        have := Text.quoted?_shorter read
        prepended (character :: quoted) (dialect.items? depth after)
      | none => none
    else if character = ',' ∧ depth = 0 then (dialect.items? depth rest).map ([] :: ·)
    else if character = '(' then prepended [character] (dialect.items? (depth + 1) rest)
    else if character = ')' then
      if depth = 0 then none else prepended [character] (dialect.items? (depth - 1) rest)
    else prepended [character] (dialect.items? depth rest)
termination_by text => text.length
decreasing_by all_goals simp only [List.length_cons]; omega

/-- The characters at which a reader of lists leaves the item that it is in, or changes its view. -/
def marks : List Char :=
  ['\'', '"', '[', ']', '\x60', '(', ')', ',']

def isMark (character : Char) : Bool :=
  marks.contains character

/-- A part of an item: its quotations are closed, so are its parentheses, and commas occur in
quotations and in parentheses only. -/
inductive Balanced (dialect : Dialect) : Nat → List Char → Prop where
  | nil {depth : Nat} : Balanced dialect depth []
  | plain {depth : Nat} {character : Char} {rest : List Char} :
      isMark character = false → Balanced dialect depth rest →
      Balanced dialect depth (character :: rest)
  | comma {depth : Nat} {rest : List Char} :
      Balanced dialect (depth + 1) rest → Balanced dialect (depth + 1) (',' :: rest)
  | name {depth : Nat} {rest : List Char} (content : List Char) :
      Text.Unquoted rest → Balanced dialect depth rest →
      Balanced dialect depth (dialect.openingQuote ::
        (Text.doubled dialect.closingQuote content ++ dialect.closingQuote :: rest))
  | text {depth : Nat} {rest : List Char} (content : List Char) :
      Text.Unquoted rest → Balanced dialect depth rest →
      Balanced dialect depth ('\'' :: (dialect.escaped content ++ '\'' :: rest))
  | parentheses {depth : Nat} {inner rest : List Char} :
      Balanced dialect (depth + 1) inner → Balanced dialect depth rest →
      Balanced dialect depth ('(' :: (inner ++ ')' :: rest))

variable {dialect : Dialect} {depth : Nat} {part quoted rest after : List Char} {character : Char}

theorem isUnquoted_of_isMark (plain : isMark character = false) :
    Text.isUnquoted character = true := by
  simp only [isMark, marks, List.contains_eq_mem, decide_eq_false_iff_not, List.mem_cons,
    List.not_mem_nil, or_false, not_or] at plain
  simp [Text.isUnquoted, plain]

/-!
### Steps
-/

theorem items?_plain (plain : isMark character = false) :
    dialect.items? depth (character :: rest) =
      prepended [character] (dialect.items? depth rest) := by
  have differs : ∀ mark ∈ marks, character ≠ mark := by
    rintro mark member rfl
    simp [isMark, member] at plain
  simp only [marks, List.forall_mem_cons] at differs
  rw [items?, if_neg (openingQuote_ne (isUnquoted_of_isMark plain))]
  simp [differs]

theorem items?_separator :
    dialect.items? 0 (',' :: rest) = (dialect.items? 0 rest).map ([] :: ·) := by
  have noName : ',' ≠ dialect.openingQuote := openingQuote_ne (by decide)
  rw [items?, if_neg noName, if_neg (by decide), if_pos ⟨rfl, rfl⟩]

theorem items?_comma :
    dialect.items? (depth + 1) (',' :: rest) =
      prepended [','] (dialect.items? (depth + 1) rest) := by
  have noName : ',' ≠ dialect.openingQuote := openingQuote_ne (by decide)
  rw [items?, if_neg noName]
  simp

theorem items?_open :
    dialect.items? depth ('(' :: rest) =
      prepended ['('] (dialect.items? (depth + 1) rest) := by
  have noName : '(' ≠ dialect.openingQuote := openingQuote_ne (by decide)
  rw [items?, if_neg noName]
  simp

theorem items?_close :
    dialect.items? (depth + 1) (')' :: rest) =
      prepended [')'] (dialect.items? depth rest) := by
  have noName : ')' ≠ dialect.openingQuote := openingQuote_ne (by decide)
  rw [items?, if_neg noName]
  simp

theorem items?_name (content : List Char) (ends : rest.head? ≠ some dialect.closingQuote) :
    dialect.items? depth (dialect.openingQuote ::
        (Text.doubled dialect.closingQuote content ++ dialect.closingQuote :: rest)) =
      prepended (dialect.openingQuote ::
        (Text.doubled dialect.closingQuote content ++ [dialect.closingQuote]))
        (dialect.items? depth rest) := by
  have read := Text.quotation?_doubled content ends
  rw [List.append_cons] at read
  have quoted := Text.quoted?_append read
  rw [List.append_cons, items?, if_pos rfl]
  split
  · next found =>
    rw [quoted] at found
    cases found
    rfl
  · next missing =>
    rw [quoted] at missing
    cases missing

theorem items?_text (content : List Char) (ends : rest.head? ≠ some '\'') :
    dialect.items? depth ('\'' :: (dialect.escaped content ++ '\'' :: rest)) =
      prepended ('\'' :: (dialect.escaped content ++ ['\''])) (dialect.items? depth rest) := by
  have read := dialect.quotation?_escaped content ends
  rw [List.append_cons] at read
  have quoted := Text.quoted?_append read
  have noName : '\'' ≠ dialect.openingQuote := by cases dialect <;> decide
  rw [List.append_cons, items?, if_neg noName, if_pos rfl]
  split
  · next found =>
    rw [quoted] at found
    cases found
    rfl
  · next missing =>
    rw [quoted] at missing
    cases missing

/-- A reader goes through a balanced part without leaving the item that it is in. -/
theorem items?_balanced (balanced : dialect.Balanced depth part) (follows : Text.Unquoted rest) :
    dialect.items? depth (part ++ rest) = prepended part (dialect.items? depth rest) := by
  induction balanced generalizing rest with
  | nil => exact (Text.prepended_nil _).symm
  | @plain depth character part plain _ ih =>
      rw [List.cons_append, items?_plain plain, ih follows, Text.prepended_append]
      rfl
  | @comma depth part _ ih =>
      rw [List.cons_append, items?_comma, ih follows, Text.prepended_append]
      rfl
  | @name depth part content unquoted _ ih =>
      have ends : (part ++ rest).head? ≠ some dialect.closingQuote :=
        fun head => closingQuote_ne (Text.unquoted_append unquoted follows _ head) rfl
      simp only [List.cons_append, List.append_assoc]
      rw [items?_name content ends, ih follows, Text.prepended_append]
      simp
  | @text depth part content unquoted _ ih =>
      have ends : (part ++ rest).head? ≠ some '\'' :=
        fun head => absurd (Text.unquoted_append unquoted follows _ head) (by decide)
      simp only [List.cons_append, List.append_assoc]
      rw [items?_text content ends, ih follows, Text.prepended_append]
      simp
  | @parentheses depth inner part _ _ innerIH ih =>
      -- The inner part is read with one more parenthesis open, up to the one that closes it.
      have closed : Text.Unquoted (')' :: (part ++ rest)) := Text.unquoted_cons (by decide)
      simp only [List.cons_append, List.append_assoc]
      rw [items?_open, innerIH closed, items?_close, ih follows]
      simp [Text.prepended_append]

/-- Items with commas between them are cut apart again. -/
theorem items?_joined {items : List (List Char)} (filled : items ≠ [])
    (balanced : ∀ item ∈ items, dialect.Balanced 0 item) :
    dialect.items? 0 ([','].intercalate items) = some items := by
  induction items with
  | nil => exact absurd rfl filled
  | cons item others ih =>
      obtain ⟨first, rest⟩ := List.forall_mem_cons.mp balanced
      cases others with
      | nil =>
          have read : dialect.items? 0 (item ++ []) = _ := items?_balanced first Text.unquoted_nil
          rw [List.append_nil] at read
          rw [List.intercalate_singleton, read, items?]
          simp [prepended]
      | cons next others =>
          have comma : Text.Unquoted (',' :: [','].intercalate (next :: others)) :=
            Text.unquoted_cons (by decide)
          rw [List.intercalate_cons_cons, List.append_assoc, List.singleton_append,
            items?_balanced first comma, items?_separator, ih (List.cons_ne_nil _ _) rest]
          simp [prepended]

/-- The items of a list at the outermost level. -/
def listItems? (dialect : Dialect) (text : String) : Option (List String) :=
  (dialect.items? 0 text.toList).map (List.map String.ofList)

theorem listItems?_joined {items : List String} (filled : items ≠ [])
    (balanced : ∀ item ∈ items, dialect.Balanced 0 item.toList) :
    dialect.listItems? (",".intercalate items) = some items := by
  have nonempty : items.map String.toList ≠ [] := by simpa using filled
  have joined := items?_joined nonempty (List.forall_mem_map.mpr balanced)
  rw [listItems?, String.toList_intercalate]
  simp [joined]

/-!
## Balanced texts
-/

/-- A test that no mark passes tells characters that are no marks. -/
theorem isMark_eq_false {test : Char → Bool} (outside : ∀ mark ∈ marks, test mark = false)
    (passes : test character = true) : isMark character = false := by
  rw [isMark, List.contains_eq_mem, decide_eq_false_iff_not]
  exact fun member => absurd (outside character member) (by simp [passes])

namespace Balanced

variable {text : List Char}

theorem plains (text : List Char) (plain : ∀ character ∈ text, isMark character = false)
    (balanced : dialect.Balanced depth rest) : dialect.Balanced depth (text ++ rest) := by
  induction text with
  | nil => exact balanced
  | cons character text ih =>
      obtain ⟨first, others⟩ := List.forall_mem_cons.mp plain
      exact .plain first (ih others)

theorem ofPlain (plain : ∀ character ∈ text, isMark character = false) :
    dialect.Balanced depth text := by
  have whole : dialect.Balanced depth _ := plains text plain .nil
  rwa [List.append_nil] at whole

theorem bareText (noQuote : '\'' ∉ text) (noEscape : dialect = .mySql → '\\' ∉ text)
    (follows : Text.Unquoted rest) (balanced : dialect.Balanced depth rest) :
    dialect.Balanced depth ('\'' :: (text ++ '\'' :: rest)) := by
  have quoted := Balanced.text text follows balanced
  rwa [escaped_eq_self noQuote noEscape] at quoted

theorem bare (text : List Char) (bare : ∀ character ∈ text, Text.isBare character = true)
    (follows : Text.Unquoted rest) (balanced : dialect.Balanced depth rest) :
    dialect.Balanced depth ('\'' :: (text ++ '\'' :: rest)) :=
  bareText (fun member => absurd (bare _ member) (by decide))
    (fun _ member => absurd (bare _ member) (by decide)) follows balanced

private theorem parts {parts : List (List Char)} :
    dialect.Balanced depth (['.'].intercalate (parts.map dialect.quotedPart)) := by
  induction parts with
  | nil => exact .nil
  | cons part others ih =>
      rw [List.map_cons]
      cases others with
      | nil =>
          rw [List.map_nil, List.intercalate_singleton, quotedPart, quotedContent_eq]
          exact .name _ Text.unquoted_nil .nil
      | cons next others =>
          have pointed : dialect.Balanced depth ('.' :: _) := .plain (by decide) ih
          have quoted := Balanced.name (dialect.nameContent part) (Text.unquoted_cons (by decide))
            pointed
          simpa [List.intercalate_cons_cons, quotedPart, quotedContent_eq] using quoted

theorem quotedName (name : String) : dialect.Balanced depth (dialect.quotedName name).toList := by
  rw [Dialect.quotedName, String.toList_ofList]
  exact parts

theorem marker (base : String) (position : Nat) :
    dialect.Balanced depth (dialect.marker (parameterName base position)).toList := by
  have named := parameterName_nameCharacter base position
  have outside : ∀ mark ∈ marks, isNameCharacter mark = false := by decide
  rw [Dialect.marker, String.toList_ofList]
  refine ofPlain (List.forall_mem_cons.mpr ⟨by cases dialect <;> decide, ?_⟩)
  exact fun character member => isMark_eq_false outside (named character member)

theorem now (dialect : Dialect) : dialect.Balanced depth dialect.now.toList := by
  have call : ∀ name : List Char, (∀ character ∈ name, isMark character = false) →
      dialect.Balanced depth (name ++ ['(', ')']) :=
    fun name plain => plains name plain (.parentheses .nil .nil)
  cases dialect with
  | sqlServer => exact call "GETDATE".toList (by decide)
  | mySql => exact call "NOW".toList (by decide)
  | postgreSql => exact call "now".toList (by decide)
  | oracle | firebird => exact ofPlain (by decide)
  | sqlite =>
      have zone : Balanced .sqlite (depth + 1) "'localtime'".toList :=
        bare "localtime".toList (by decide) Text.unquoted_nil .nil
      have arguments : Balanced .sqlite (depth + 1) "CURRENT_TIMESTAMP, 'localtime'".toList :=
        plains "CURRENT_TIMESTAMP".toList (by decide) (.comma (.plain (by decide) zone))
      exact plains "DATETIME".toList (by decide) (.parentheses arguments .nil)

private theorem date {text format : String}
    (bareText : ∀ character ∈ text.toList, Text.isBare character = true)
    (bareFormat : ∀ character ∈ format.toList, Text.isBare character = true) :
    dialect.Balanced depth (dialect.dateLiteral text format).toList := by
  unfold dateLiteral
  split
  · have written : dialect.Balanced (depth + 1) _ := bare _ bareFormat Text.unquoted_nil .nil
    have arguments := bare _ bareText (Text.unquoted_cons (by decide)) (.comma written)
    have called := plains "TO_DATE".toList (by decide) (.parentheses arguments .nil)
    simpa [String.toList_append] using called
  · have quoted : dialect.Balanced depth _ := bare _ bareText Text.unquoted_nil .nil
    simpa [String.toList_append] using quoted

private theorem signed {negative : Bool} (signed : Text.Signed negative text) :
    dialect.Balanced depth text := by
  obtain ⟨magnitude, rfl, _, numeric⟩ := signed
  have outside : ∀ mark ∈ marks, Text.isNumeric mark = false := by decide
  refine ofPlain (List.forall_mem_append.mpr ⟨by cases negative <;> decide, ?_⟩)
  exact fun character member => isMark_eq_false outside (numeric character member)

private theorem bytes (bytes : List UInt8) :
    dialect.Balanced depth (dialect.bytesLiteral bytes).toList := by
  have digits := Text.hexOfBytes_alphanumeric bytes
  have outside : ∀ mark ∈ marks, mark.isAlphanum = false := by decide
  have hexadecimal : ∀ {dialect : Dialect},
      dialect.Balanced depth ('X' :: '\'' :: (Text.hexOfBytes bytes ++ ['\''])) :=
    .plain (by decide) (bare _ (Text.bare_hexOfBytes bytes) Text.unquoted_nil .nil)
  cases dialect with
  | sqlServer =>
      have plain : Balanced .sqlServer depth (Text.hexOfBytes bytes) :=
        ofPlain fun character member => isMark_eq_false outside (digits character member)
      have marked : Balanced .sqlServer depth ('0' :: 'x' :: _) :=
        .plain (by decide) (.plain (by decide) plain)
      simpa [bytesLiteral] using marked
  | postgreSql =>
      have quoted : Balanced .postgreSql depth _ :=
        bareText (quote_notMem_hexadecimal bytes) (fun product => by cases product)
          Text.unquoted_nil .nil
      simpa [bytesLiteral] using quoted
  | sqlite | mySql | oracle | firebird => simpa [bytesLiteral] using hexadecimal

theorem literal {value : Value} (writable : value.hasLiteral = true) :
    dialect.Balanced depth (dialect.literalText value).toList := by
  cases value with
  | null =>
      change dialect.Balanced depth "NULL".toList
      exact ofPlain (by decide)
  | bool value => exact ofPlain (by cases dialect <;> cases value <;> decide)
  | int16 value | int32 value | int64 value => exact signed (Text.int_inFigures _).signed
  | double value => exact signed (Decimal.double_inFigures writable).signed
  | text value =>
      have quoted : dialect.Balanced depth ('\'' :: (dialect.escaped value.toList ++ ['\''])) :=
        .text value.toList Text.unquoted_nil .nil
      by_cases unicode : dialect = .sqlServer
      · have marked : dialect.Balanced depth ('N' :: _) := .plain (by decide) quoted
        simpa [literalText, quotedText, unicode] using marked
      · simpa [literalText, quotedText, unicode] using quoted
  | dateTime value => exact date (Text.bare_dateTime value) (by decide)
  | date value => exact date (Text.bare_date value) (by decide)
  | uuid value =>
      have quoted : dialect.Balanced depth _ := bare _ (Text.bare_uuid value) Text.unquoted_nil .nil
      simpa [literalText, String.toList_append] using quoted
  | bytes value => exact bytes value

end Balanced

end Dialect

end QueryText
