import QueryText.Proofs.Phrase

/-!
# Parsing conditions

The text of a condition is read back as the condition's own phrase, to its last character. Every
operand is a word, a column or a phrase in parentheses; none of them can be cut in two, and what
follows it tells which kind of phrase it begins.
-/

set_option autoImplicit false

namespace QueryText

/-!
## Reading words and names
-/

theorem Text.contains_eq_false {condition : Char → Bool} {text marks : List Char}
    (each : ∀ character ∈ text, condition character = true)
    (foreign : ∀ character ∈ marks, condition character = false) :
    ∀ character ∈ text, marks.contains character = false := by
  intro character member
  rw [Bool.eq_false_iff]
  intro among
  have holds := each character member
  rw [foreign character (List.contains_iff_mem.mp among)] at holds
  cases holds

namespace Lexeme

variable {rest : List Lexeme}

theorem strip?_append (text : List Char) (rest : List Lexeme) :
    strip? text (text.map .plain ++ rest) = some rest := by
  induction text with
  | nil => rfl
  | cons character others ih => simpa [strip?] using ih

/-- What may follow a word: nothing, or a character that ends it. -/
def Stops (rest : List Lexeme) : Prop :=
  ∀ lexeme ∈ rest.head?, ∃ character, lexeme = .plain character ∧ isStop character = true

theorem stops_cons {character : Char} (stop : isStop character = true) :
    Stops (.plain character :: rest) := by
  intro lexeme head
  cases head
  exact ⟨character, rfl, stop⟩

theorem word_stops (stops : Stops rest) : word 0 rest = ([], rest) := by
  cases rest with
  | nil => rfl
  | cons lexeme rest =>
      obtain ⟨character, rfl, stop⟩ := stops lexeme rfl
      simp [word, stop]

theorem word_plain {text : List Char}
    (ordinary : ∀ character ∈ text, isStop character = false ∧ character ≠ '(') :
    word 0 (text.map .plain ++ rest) = (word 0 rest).map (text.map .plain ++ ·) id := by
  induction text with
  | nil => rfl
  | cons character text ih =>
      rw [List.forall_mem_cons] at ordinary
      obtain ⟨⟨noStop, noOpen⟩, others⟩ := ordinary
      have flat : nesting 0 character = 0 := by simp [nesting, noOpen]
      simp only [List.map_cons, List.cons_append, word, noStop, flat, ih others]
      rfl

theorem nameTail_parts (contents : List (List Char)) (ends : rest.head? ≠ some (.plain '.')) :
    nameTail (contents.flatMap (fun content => [.plain '.', .name content]) ++ rest) =
      (contents, rest) := by
  induction contents with
  | nil =>
      rw [List.flatMap_nil, List.nil_append]
      unfold nameTail
      split
      · exact absurd rfl ends
      · rfl
  | cons content contents ih =>
      simp only [List.flatMap_cons, List.cons_append, List.nil_append, nameTail, ih]
      rfl

/-- A word that can stand where an operand is expected. -/
structure IsWord (lexemes : List Lexeme) : Prop where
  read : ∀ rest, Stops rest → word 0 (lexemes ++ rest) = (lexemes, rest)
  begins : ∃ first others, lexemes = first :: others ∧ first ≠ .plain '(' ∧
    ∀ content, first ≠ .name content
  noTruth : ∀ holds, lexemes ≠ (Phrase.truthText holds).toList.map .plain
  noNegation : ∀ rest, strip? "NOT (".toList (lexemes ++ rest) = none

theorem IsWord.noClose {lexemes : List Lexeme} (isWord : IsWord lexemes) (rest : List Lexeme) :
    strip? [')'] (lexemes ++ rest) = none := by
  obtain ⟨first, others, rfl, _⟩ := isWord.begins
  have read := isWord.read [] nofun
  cases first with
  | plain character =>
      have inside : character ≠ ')' := by
        intro same
        subst same
        cases read
      simp [strip?, inside.symm]
  | name content | text content => rfl

theorem strip?_ne {first other : Char} (different : first ≠ other) (text : List Char)
    (rest : List Lexeme) : strip? (first :: text) (.plain other :: rest) = none :=
  if_neg different

/-- A text is a word if it holds no blank, comma, parenthesis or equality sign and cannot begin a
negation. -/
theorem isWord_plain {text : List Char} (filled : text ≠ [])
    (ordinary : ∀ character ∈ text, " ,)(=".toList.contains character = false)
    (positive : ∀ rest, strip? "NOT (".toList (text.map .plain ++ rest) = none) :
    IsWord (text.map .plain) := by
  have inWord : ∀ character ∈ text, isStop character = false ∧ character ≠ '(' := by
    intro character member
    have absent := ordinary character member
    simp only [isStop, List.contains_eq_mem, decide_eq_false_iff_not] at absent ⊢
    exact ⟨fun stop => absent (List.mem_append_left "(=".toList stop),
      fun same => absent (same ▸ by decide)⟩
  refine ⟨fun rest stops => ?_, ?_, fun holds same => ?_, positive⟩
  · rw [word_plain inWord, word_stops stops, Prod.map_apply, List.append_nil, id]
  · obtain ⟨first, others, rfl⟩ := List.exists_cons_of_ne_nil filled
    refine ⟨_, _, rfl, fun same => ?_, nofun⟩
    exact (inWord first (List.mem_cons_self ..)).2 (plain.inj same)
  · have equality : '=' ∈ (Phrase.truthText holds).toList := by cases holds <;> decide
    rw [← plains_map_plain (Phrase.truthText holds).toList, ← same, plains_map_plain] at equality
    exact absurd (ordinary '=' equality) (by decide)

theorem items?_words {words : List (List Lexeme)} (filled : words ≠ [])
    (each : ∀ item ∈ words, IsWord item) {fuel : Nat} (enough : words.length ≤ fuel) :
    items? fuel (List.intercalate [.plain ','] words ++ .plain ')' :: rest) =
      some (words, rest) := by
  induction words generalizing fuel with
  | nil => exact absurd rfl filled
  | cons item others ih =>
      rw [List.forall_mem_cons] at each
      obtain ⟨fuel, rfl⟩ : ∃ fewer, fuel = fewer + 1 := Nat.exists_eq_add_one.mpr (by
        simp only [List.length_cons] at enough
        omega)
      cases others with
      | nil =>
          have read := each.1.read (.plain ')' :: rest) (stops_cons (by decide))
          simp only [List.intercalate_singleton, items?, read]
      | cons next others =>
          have read := each.1.read (.plain ',' :: (List.intercalate [.plain ','] (next :: others) ++
            .plain ')' :: rest)) (stops_cons (by decide))
          have found : items? fuel _ = _ := ih (by simp) each.2 (by simpa using enough)
          simp only [List.intercalate_cons_cons, List.append_assoc, List.cons_append,
            List.nil_append, items?, read, found]
          rfl

private theorem length_le_intercalate (words : List (List Lexeme)) :
    words.length ≤ (List.intercalate [.plain ','] words).length + 1 := by
  induction words with
  | nil => exact Nat.zero_le _
  | cons item others ih =>
      cases others with
      | nil => exact Nat.le_add_left ..
      | cons next others =>
          rw [List.intercalate_cons_cons, List.length_append, List.length_append,
            List.length_singleton, List.length_cons]
          omega

theorem list?_words {words : List (List Lexeme)} (each : ∀ item ∈ words, IsWord item) :
    list? (List.intercalate [.plain ','] words ++ .plain ')' :: rest) = some (words, rest) := by
  cases words with
  | nil => rfl
  | cons item others =>
      have noClose : strip? [')'] (List.intercalate [.plain ','] (item :: others) ++
          .plain ')' :: rest) = none := by
        have first := (each item (List.mem_cons_self ..)).noClose
        cases others with
        | nil =>
            rw [List.intercalate_singleton]
            exact first _
        | cons next others =>
            rw [List.intercalate_cons_cons, List.append_assoc, List.append_assoc]
            exact first _
      have enough : (item :: others).length ≤
          (List.intercalate [.plain ','] (item :: others) ++ .plain ')' :: rest).length := by
        have bound := length_le_intercalate (item :: others)
        simp only [List.length_append, List.length_cons] at bound ⊢
        omega
      rw [list?, noClose]
      exact items?_words (List.cons_ne_nil item others) each enough

end Lexeme

/-!
## Reading operands and what follows them
-/

namespace Phrase

open Lexeme (Stops IsWord stops_cons strip? list?)

variable {inner : List Lexeme → Option (Phrase × List Lexeme)} {rest : List Lexeme}

theorem ofWord_eq {word : List Lexeme} (isWord : IsWord word) : ofWord word = .value word := by
  rw [ofWord, if_neg (isWord.noTruth true), if_neg (isWord.noTruth false)]

theorem operand?_word {word : List Lexeme} (isWord : IsWord word) (stops : Stops rest) :
    operand? inner (word ++ rest) = some (.value word, rest) := by
  have read := isWord.read rest stops
  have value := ofWord_eq isWord
  obtain ⟨first, others, rfl, noOpen, noName⟩ := isWord.begins
  cases first with
  | plain character =>
      have ordinary : character ≠ '(' := fun same => noOpen (by rw [same])
      rw [List.cons_append] at read ⊢
      rw [operand?, if_neg ordinary, read]
      simp only [value]
  | text content =>
      rw [List.cons_append] at read ⊢
      rw [operand?, read]
      simp only [value]
  | name content => exact absurd rfl (noName content)

theorem operand?_truth (holds : Bool) (stops : Stops rest) :
    operand? inner ((truthText holds).toList.map .plain ++ rest) =
      some (.truth holds, rest) := by
  have read := Lexeme.word_stops stops
  cases holds <;>
    simp [truthText, operand?, Lexeme.word, Lexeme.isStop, Lexeme.nesting, read, ofWord]

theorem operand?_column (dialect : Dialect) (name : String)
    (ends : rest.head? ≠ some (.plain '.')) :
    operand? inner (dialect.nameLexemes name ++ rest) =
      some (.column ((Dialect.nameParts name).map dialect.nameContent), rest) := by
  have tail : ∀ (part : List Char) (parts : List (List Char)),
      List.intercalate [.plain '.'] ((part :: parts).map fun part =>
          [Lexeme.name (dialect.nameContent part)]) =
        .name (dialect.nameContent part) ::
          (parts.map dialect.nameContent).flatMap fun content => [.plain '.', .name content] := by
    intro part parts
    induction parts generalizing part with
    | nil => rfl
    | cons next parts ih =>
        have others := ih next
        rw [List.map_cons] at others
        rw [List.map_cons, List.map_cons, List.intercalate_cons_cons, others]
        rfl
  obtain ⟨part, parts, split⟩ := List.exists_cons_of_ne_nil (List.splitOn_ne_nil '.' name.toList)
  rw [Dialect.nameLexemes, Dialect.nameParts, split, tail, List.cons_append, operand?,
    Lexeme.nameTail_parts _ ends]
  rfl

theorem operand?_parenthesized {front : List Lexeme} {phrase : Phrase}
    (read : inner (front ++ .plain ')' :: rest) = some (phrase, .plain ')' :: rest)) :
    operand? inner (.plain '(' :: (front ++ .plain ')' :: rest)) = some (phrase, rest) := by
  rw [operand?, if_pos rfl, read]
  rfl

theorem connector?_text (connector : Connector) :
    connector? (connector.text.toList.map .plain ++ rest) = some (connector, rest) := by
  rcases connector with _ | _ | _ | op | op
  case relation => cases op <;> rfl
  case arithmetic => cases op <;> rfl
  all_goals rfl

/-- What may follow a whole phrase: nothing or a closing parenthesis. -/
def Closes (rest : List Lexeme) : Prop :=
  ∀ lexeme ∈ rest.head?, lexeme = .plain ')'

theorem Closes.stops (closes : Closes rest) : Stops rest :=
  fun lexeme head => ⟨')', closes lexeme head, by decide⟩

theorem closes_cons : Closes (.plain ')' :: rest) := by
  intro lexeme head
  cases head
  rfl

theorem continue?_connector {left right : Phrase} {lexemes : List Lexeme} (connector : Connector)
    (read : operand? inner lexemes = some (right, rest)) :
    continue? inner left (connector.text.toList.map .plain ++ lexemes) =
      some (.binary connector left right, rest) := by
  rw [continue?, connector?_text]
  simp only [read]
  rfl

theorem continue?_closes {left : Phrase} (closes : Closes rest) :
    continue? inner left rest = some (left, rest) := by
  cases rest with
  | nil => rfl
  | cons lexeme rest =>
      obtain rfl := closes lexeme rfl
      rfl

theorem continue?_nullTest {left : Phrase} (negated : Bool) :
    continue? inner left ((nullTestText negated).toList.map .plain ++ rest) =
      some (.nullTest negated left, rest) := by
  cases negated <;> rfl

private theorem inList?_listText {left : Phrase} (negated : Bool) {words : List (List Lexeme)}
    {lexemes : List Lexeme} (read : list? lexemes = some (words, rest)) :
    inList? left ((listText negated).toList.map .plain ++ lexemes) =
      some (.inList negated left words, rest) := by
  have stripped := Lexeme.strip?_append (listText negated).toList lexemes
  have mismatch : strip? (listText false).toList
      ((listText true).toList.map .plain ++ lexemes) = none := rfl
  cases negated with
  | false =>
      simp only [inList?, List.findSome?_cons, stripped, bind, Option.bind, read]
      rfl
  | true =>
      simp only [inList?, List.findSome?_cons, mismatch, stripped, bind, Option.bind, read]
      rfl

theorem continue?_inList {left : Phrase} (negated : Bool) {words : List (List Lexeme)}
    (each : ∀ item ∈ words, IsWord item) :
    continue? inner left ((listText negated).toList.map .plain ++
        (List.intercalate [.plain ','] words ++ .plain ')' :: rest)) =
      some (.inList negated left words, rest) := by
  have noConnector : ∀ lexemes : List Lexeme,
      connector? ((listText negated).toList.map .plain ++ lexemes) = none := by
    intro lexemes
    cases negated <;> rfl
  have noTest : ∀ lexemes : List Lexeme,
      nullTest? left ((listText negated).toList.map .plain ++ lexemes) = none := by
    intro lexemes
    cases negated <;> rfl
  rw [continue?, noConnector, noTest, inList?_listText negated (Lexeme.list?_words each)]
  rfl

/-- Lexemes that are read as an operand wherever the operand may end. -/
structure IsOperand (fuel : Nat) (lexemes : List Lexeme) (phrase : Phrase) : Prop where
  noNegation : ∀ rest, strip? "NOT (".toList (lexemes ++ rest) = none
  read : ∀ rest, Stops rest → operand? (read? fuel) (lexemes ++ rest) = some (phrase, rest)

section

variable {fuel : Nat} {front back : List Lexeme} {left right phrase : Phrase}

theorem isOperand_word (isWord : IsWord front) : IsOperand fuel front (.value front) :=
  ⟨isWord.noNegation, fun _ stops => operand?_word isWord stops⟩

theorem isOperand_truth (holds : Bool) :
    IsOperand fuel ((truthText holds).toList.map .plain) (.truth holds) :=
  ⟨fun _ => by cases holds <;> rfl, fun _ stops => operand?_truth holds stops⟩

theorem isOperand_column (dialect : Dialect) (name : String) :
    IsOperand fuel (dialect.nameLexemes name)
      (.column ((Dialect.nameParts name).map dialect.nameContent)) := by
  constructor
  · intro rest
    obtain ⟨part, parts, split⟩ :=
      List.exists_cons_of_ne_nil (List.splitOn_ne_nil '.' name.toList)
    rw [Dialect.nameLexemes, Dialect.nameParts, split]
    cases parts <;> rfl
  · intro rest stops
    refine operand?_column dialect name fun head => ?_
    obtain ⟨character, same, stop⟩ := stops _ head
    cases same
    exact absurd stop (by decide)

theorem isOperand_parenthesized
    (read : ∀ rest, Closes rest → read? fuel (front ++ rest) = some (phrase, rest)) :
    IsOperand fuel (.plain '(' :: (front ++ [.plain ')'])) phrase := by
  constructor
  · intro rest
    rfl
  · intro rest _
    have inside := read (.plain ')' :: rest) closes_cons
    rw [List.cons_append, List.append_assoc]
    exact operand?_parenthesized inside

private theorem read?_operand {lexemes : List Lexeme} {result : Phrase × List Lexeme}
    (operand : IsOperand fuel front left) (stops : Stops lexemes)
    (continued : continue? (read? fuel) left lexemes = some result) :
    read? (fuel + 1) (front ++ lexemes) = some result := by
  have noNegation := operand.noNegation lexemes
  have read := operand.read lexemes stops
  simp only [read?, noNegation, read, bind, Option.bind, continued]

theorem read?_alone (operand : IsOperand fuel front left) (closes : Closes rest) :
    read? (fuel + 1) (front ++ rest) = some (left, rest) :=
  read?_operand operand closes.stops (continue?_closes closes)

theorem read?_binary (connector : Connector) (leftOperand : IsOperand fuel front left)
    (rightOperand : IsOperand fuel back right) (closes : Closes rest) :
    read? (fuel + 1) (front ++ (connector.text.toList.map .plain ++ (back ++ rest))) =
      some (.binary connector left right, rest) := by
  refine read?_operand leftOperand ?_
    (continue?_connector connector (rightOperand.read rest closes.stops))
  rcases connector with _ | _ | _ | op | op
  case relation => cases op <;> exact stops_cons (by decide)
  case arithmetic => cases op <;> exact stops_cons (by decide)
  all_goals exact stops_cons (by decide)

theorem read?_nullTest (negated : Bool) (operand : IsOperand fuel front left) :
    read? (fuel + 1) (front ++ ((nullTestText negated).toList.map .plain ++ rest)) =
      some (.nullTest negated left, rest) := by
  refine read?_operand operand ?_ (continue?_nullTest negated)
  cases negated <;> exact stops_cons (by decide)

theorem read?_inList (negated : Bool) (operand : IsOperand fuel front left)
    {words : List (List Lexeme)} (each : ∀ item ∈ words, IsWord item) :
    read? (fuel + 1) (front ++ ((listText negated).toList.map .plain ++
        (List.intercalate [.plain ','] words ++ .plain ')' :: rest))) =
      some (.inList negated left words, rest) := by
  refine read?_operand operand ?_ (continue?_inList negated each)
  cases negated <;> exact stops_cons (by decide)

theorem read?_not (read : read? fuel (front ++ .plain ')' :: rest) =
      some (phrase, .plain ')' :: rest)) :
    read? (fuel + 1) ("NOT (".toList.map .plain ++ (front ++ .plain ')' :: rest)) =
      some (.not phrase, rest) := by
  simp only [read?, Lexeme.strip?_append, read, bind, Option.bind, strip?]
  rfl

end

end Phrase

/-!
## Reading conditions
-/

open Lexeme (IsWord)
open Phrase (IsOperand Closes)

variable {settings : Settings}

/-- Whether the slots of a fragment are written as words, wherever they stand. -/
def Settings.WritesWords (settings : Settings) (fragment : Fragment) : Prop :=
  ∀ slot ∈ fragment.slots, ∀ bound, IsWord (settings.slotLexemes bound slot)

namespace Settings

variable {left right : Fragment}

theorem writesWords_append :
    settings.WritesWords (left ++ right) ↔
      settings.WritesWords left ∧ settings.WritesWords right := by
  rw [WritesWords, Fragment.slots_append]
  exact List.forall_mem_append

theorem writesWords_separated {text : String} :
    settings.WritesWords (left ++ .fixed text :: right) ↔
      settings.WritesWords left ∧ settings.WritesWords right :=
  writesWords_append

theorem words_isWord {slots : List Slot}
    (each : ∀ slot ∈ slots, ∀ bound, IsWord (settings.slotLexemes bound slot)) (bound : Nat) :
    ∀ word ∈ settings.words bound slots, IsWord word := by
  induction slots generalizing bound with
  | nil => exact nofun
  | cons slot slots ih =>
      rw [List.forall_mem_cons] at each
      exact List.forall_mem_cons.mpr ⟨each.1 bound, ih each.2 _⟩

theorem writesWords_parenthesized :
    settings.WritesWords (Fragment.parenthesized left) ↔ settings.WritesWords left := by
  rw [WritesWords, Fragment.slots_parenthesized]
  rfl

end Settings

/-- Markers are words. -/
theorem Settings.writesWords_bound (binds : settings.useParameters = true) (fragment : Fragment) :
    settings.WritesWords fragment := by
  intro slot _ bound
  have inName := parameterName_nameCharacter slot.base bound
  have ordinary := Text.contains_eq_false inName (by decide : ∀ character ∈ " ,)(=".toList, _)
  rw [slotLexemes, if_pos binds]
  refine Lexeme.isWord_plain (List.cons_ne_nil _ _) ?_ fun rest => Lexeme.strip?_ne ?_ _ _
  · exact List.forall_mem_cons.mpr ⟨by cases settings.dialect <;> decide, ordinary⟩
  · cases settings.dialect <;> decide

namespace Fragment

theorem lexemes_slots (bound : Nat) (slots : List Slot) :
    lexemes settings bound (joined "," (slots.map fun slot => [.slot slot])) =
      List.intercalate [.plain ','] (settings.words bound slots) := by
  have alone : ∀ bound slot,
      lexemes settings bound [.slot slot] = settings.slotLexemes bound slot := by
    intro bound slot
    rw [lexemes, lexemes, List.append_nil]
  induction slots generalizing bound with
  | nil => rfl
  | cons slot slots ih =>
      cases slots with
      | nil =>
          rw [Settings.words, Settings.words, List.intercalate_singleton]
          exact alone bound slot
      | cons next slots =>
          have others := ih (settings.after bound [slot])
          rw [List.map_cons] at others
          rw [List.map_cons, List.map_cons, joined, lexemes_append, lexemes_fixed, slots_slot,
            slots_nil, others, alone, Settings.words]
          exact (List.intercalate_cons_cons.trans (List.append_assoc ..)).symm

end Fragment

/-- A term is read as an operand. Its parentheses are at most as deep as it is long. -/
theorem Term.isOperand {term : Term} (words : settings.WritesWords term.fragment) (bound : Nat)
    {fuel : Nat} (enough : (term.fragment.lexemes settings bound).length ≤ fuel) :
    IsOperand fuel (term.fragment.lexemes settings bound) (term.phrase settings bound) := by
  induction term generalizing bound fuel with
  | column name =>
      rw [fragment, Fragment.lexemes, Fragment.lexemes, List.append_nil]
      exact Phrase.isOperand_column _ _
  | slot place =>
      rw [fragment, Fragment.lexemes, Fragment.lexemes, List.append_nil]
      exact Phrase.isOperand_word (words place (by simp [fragment]) bound)
  | arithmetic op left right leftIH rightIH =>
      rw [fragment, Settings.writesWords_parenthesized, Settings.writesWords_separated] at words
      obtain ⟨leftWords, rightWords⟩ := words
      rw [fragment, Fragment.lexemes_parenthesized, Fragment.lexemes_append,
        Fragment.lexemes_fixed] at enough ⊢
      simp only [List.length_cons, List.length_append, List.length_nil] at enough
      -- The parentheses are longer than the step of fuel that reading between them takes.
      obtain ⟨fuel, rfl⟩ : ∃ fewer, fuel = fewer + 1 := Nat.exists_eq_add_one.mpr (by omega)
      refine Phrase.isOperand_parenthesized fun rest closes => ?_
      have leftOperand : IsOperand fuel _ _ := leftIH leftWords bound (by omega)
      have rightOperand : IsOperand fuel _ _ :=
        rightIH rightWords (settings.after bound left.fragment.slots) (by omega)
      rw [List.append_assoc, List.append_assoc]
      exact Phrase.read?_binary (.arithmetic op) leftOperand rightOperand closes

namespace Condition

section

variable {left right : Condition} {bound fuel : Nat} {rest : List Lexeme}

/-- The fragment of two conditions with a connector between them. -/
private def connected (connector : Connector) (left right : Condition) : Fragment :=
  Fragment.parenthesized left.fragment ++ .fixed connector.text ::
    Fragment.parenthesized right.fragment

private theorem writesWords_connected {connector : Connector} :
    settings.WritesWords (connected connector left right) ↔
      settings.WritesWords left.fragment ∧ settings.WritesWords right.fragment := by
  rw [connected, Settings.writesWords_separated, Settings.writesWords_parenthesized,
    Settings.writesWords_parenthesized]

private theorem lexemes_connected (connector : Connector) :
    (connected connector left right).lexemes settings bound =
      .plain '(' :: (left.fragment.lexemes settings bound ++ [.plain ')']) ++
        (connector.text.toList.map .plain ++ .plain '(' ::
          (right.fragment.lexemes settings (settings.after bound left.fragment.slots) ++
            [.plain ')'])) := by
  rw [connected, Fragment.lexemes_append, Fragment.lexemes_fixed, Fragment.lexemes_parenthesized,
    Fragment.lexemes_parenthesized, Fragment.slots_parenthesized]

private theorem lengths_connected {connector : Connector}
    (enough : ((connected connector left right).lexemes settings bound).length ≤ fuel) :
    ∃ fewer, fuel = fewer + 1 ∧ (left.fragment.lexemes settings bound).length ≤ fewer ∧
      (right.fragment.lexemes settings (settings.after bound left.fragment.slots)).length ≤
        fewer := by
  rw [lexemes_connected] at enough
  simp only [List.length_cons, List.length_append, List.length_nil] at enough
  exact ⟨fuel - 1, by omega, by omega, by omega⟩

private theorem read?_connected (connector : Connector)
    (readLeft : ∀ rest, Closes rest →
      Phrase.read? fuel (left.fragment.lexemes settings bound ++ rest) =
        some (left.phrase settings bound, rest))
    (readRight : ∀ rest, Closes rest →
      Phrase.read? fuel
          (right.fragment.lexemes settings (settings.after bound left.fragment.slots) ++ rest) =
        some (right.phrase settings (settings.after bound left.fragment.slots), rest))
    (closes : Closes rest) :
    Phrase.read? (fuel + 1) ((connected connector left right).lexemes settings bound ++ rest) =
      some (.binary connector (left.phrase settings bound)
        (right.phrase settings (settings.after bound left.fragment.slots)), rest) := by
  rw [lexemes_connected, List.append_assoc, List.append_assoc]
  exact Phrase.read?_binary connector (Phrase.isOperand_parenthesized readLeft)
    (Phrase.isOperand_parenthesized readRight) closes

end

/-- A condition is read as a phrase up to what closes it. Its parentheses are at most as deep as it
is long. -/
theorem read?_lexemes {condition : Condition} (words : settings.WritesWords condition.fragment)
    (bound : Nat) {fuel : Nat}
    (enough : (condition.fragment.lexemes settings bound).length ≤ fuel) (rest : List Lexeme)
    (closes : Closes rest) :
    Phrase.read? (fuel + 1) (condition.fragment.lexemes settings bound ++ rest) =
      some (condition.phrase settings bound, rest) := by
  induction condition generalizing bound fuel rest with
  | truth holds =>
      have operand : IsOperand fuel _ _ := Phrase.isOperand_truth holds
      have alone := Phrase.read?_alone operand closes
      cases holds <;> exact alone
  | comparison op left right =>
      rw [fragment, Settings.writesWords_separated] at words
      obtain ⟨leftWords, rightWords⟩ := words
      rw [fragment, Fragment.lexemes_append, Fragment.lexemes_fixed] at enough ⊢
      simp only [List.length_append] at enough
      have leftOperand : IsOperand fuel _ _ := left.isOperand leftWords bound (by omega)
      have rightOperand : IsOperand fuel _ _ :=
        right.isOperand rightWords (settings.after bound left.fragment.slots) (by omega)
      rw [List.append_assoc, List.append_assoc]
      exact Phrase.read?_binary (.relation op) leftOperand rightOperand closes
  | nullTest negated term =>
      rw [fragment, Settings.writesWords_separated] at words
      rw [fragment, Fragment.lexemes_append, Fragment.lexemes_fixed] at enough ⊢
      simp only [List.length_append] at enough
      have operand : IsOperand fuel _ _ := term.isOperand words.1 bound (by omega)
      rw [Fragment.lexemes, List.append_nil, List.append_assoc]
      exact Phrase.read?_nullTest negated operand
  | like column pattern =>
      have word := words pattern (List.mem_cons_self ..) bound
      have leftOperand : IsOperand fuel _ _ := Phrase.isOperand_column settings.dialect column
      have rightOperand : IsOperand fuel _ _ := Phrase.isOperand_word word
      rw [fragment, Fragment.lexemes, Fragment.lexemes_fixed, Fragment.lexemes, Fragment.lexemes,
        List.append_nil, List.append_assoc, List.append_assoc]
      exact Phrase.read?_binary .like leftOperand rightOperand closes
  | inList negated column items =>
      have listed : ∀ slot ∈ items, ∀ bound, IsWord (settings.slotLexemes bound slot) := by
        simpa [Settings.WritesWords, fragment] using words
      have operand : IsOperand fuel _ _ := Phrase.isOperand_column settings.dialect column
      have read : Phrase.read? (fuel + 1) (_ ++ (_ ++ (_ ++ .plain ')' :: rest))) = _ :=
        Phrase.read?_inList negated operand (settings.words_isWord listed bound)
      rw [fragment, Fragment.lexemes, Fragment.lexemes_fixed, Fragment.lexemes_parenthesized,
        Fragment.lexemes_slots, phrase, Term.phrase]
      cases negated <;> simpa [Phrase.listText] using read
  | and left right leftIH rightIH =>
      have both : settings.WritesWords (connected .and left right) := words
      obtain ⟨leftWords, rightWords⟩ := writesWords_connected.mp both
      have covered : ((connected .and left right).lexemes settings bound).length ≤ fuel := enough
      obtain ⟨fuel, rfl, leftEnough, rightEnough⟩ := lengths_connected covered
      exact read?_connected .and (leftIH leftWords bound leftEnough)
        (rightIH rightWords _ rightEnough) closes
  | or left right leftIH rightIH =>
      have both : settings.WritesWords (connected .or left right) := words
      obtain ⟨leftWords, rightWords⟩ := writesWords_connected.mp both
      have covered : ((connected .or left right).lexemes settings bound).length ≤ fuel := enough
      obtain ⟨fuel, rfl, leftEnough, rightEnough⟩ := lengths_connected covered
      exact read?_connected .or (leftIH leftWords bound leftEnough)
        (rightIH rightWords _ rightEnough) closes
  | not operand ih =>
      rw [fragment, Fragment.lexemes_fixed, Fragment.lexemes_parenthesized] at enough ⊢
      simp only [List.length_cons, List.length_append, List.length_nil] at enough
      have operandWords : settings.WritesWords operand.fragment :=
        Settings.writesWords_parenthesized.mp words
      obtain ⟨fuel, rfl⟩ : ∃ fewer, fuel = fewer + 1 := Nat.exists_eq_add_one.mpr (by omega)
      have shorter : (operand.fragment.lexemes settings bound).length ≤ fuel := by omega
      have read := ih operandWords bound shorter (.plain ')' :: rest) Phrase.closes_cons
      rw [List.append_assoc, List.cons_append, List.append_assoc]
      exact Phrase.read?_not read

/-- The text of a condition spells the condition's phrase. -/
theorem parse?_text (condition : Condition) (words : settings.WritesWords condition.fragment)
    (writable : settings.useParameters = false → condition.fragment.Writable) (bound : Nat) :
    Phrase.parse? settings.dialect (condition.fragment.text settings bound) =
      some (condition.phrase settings bound) := by
  -- A predicate subtracts with blanks around the sign, so nothing in it stands behind a bare minus.
  have spaced : Fragment.Spaced false condition.fragment := condition.spaced
  have lexemes := Fragment.lexemes?_text spaced writable bound
  have read := read?_lexemes words bound (Nat.le_refl _) [] nofun
  rw [List.append_nil] at read
  simp only [Phrase.parse?, lexemes, bind, Option.bind, read]

end Condition

end QueryText
