import QueryText.Proofs.Numeral
import QueryText.Proofs.Paging

/-!
# Windows

The rows that a paging fragment keeps, as its product reads it. Some products skip rows and then
count up to a limit, others name the first and the last position, and a limit can stand for none.
Whatever the product, the fragment keeps the rows behind the offset, up to the limit.
-/

set_option autoImplicit false

namespace QueryText

/-!
## Words
-/

namespace Text

/-- The words of a text, which are parted by blanks. -/
def blankWords (text : String) : List String :=
  ((text.toList.splitOn ' ').filter fun word => !word.isEmpty).map String.ofList

/-- Words in a row, with a blank in front of each. -/
def spaced : List String → String
  | [] => ""
  | word :: rest => " " ++ word ++ spaced rest

def Unbroken (word : String) : Prop :=
  word.toList ≠ [] ∧ ' ' ∉ word.toList

instance (word : String) : Decidable (Unbroken word) :=
  inferInstanceAs (Decidable (_ ∧ _))

theorem unbroken_natural (number : Nat) : Unbroken number.repr := by
  refine ⟨?_, fun blank => absurd (repr_alphanumeric number ' ' blank) (by decide)⟩
  rw [Nat.toList_repr]
  exact Nat.toDigits_ne_nil

theorem unbroken_integer (number : Int) : Unbroken number.repr := by
  obtain ⟨magnitude, written, filled, figures⟩ := int_inFigures number
  have blank : ' ' ∉ (if number < 0 then ['-'] else []) ++ magnitude := by
    rw [List.mem_append, not_or]
    exact ⟨by split <;> decide, fun member => absurd (figures ' ' member) (by decide)⟩
  rw [Unbroken, written]
  exact ⟨by simp [filled], by simpa using blank⟩

theorem toList_spaced (words : List String) :
    (spaced words).toList = [' '].intercalate ([] :: words.map String.toList) := by
  induction words with
  | nil => rfl
  | cons word rest ih =>
      rw [spaced, String.toList_append, String.toList_append, ih, List.map_cons,
        List.intercalate_cons_cons]
      cases rest with
      | nil => simp
      | cons next rest => simp [List.intercalate_cons_cons]

theorem blankWords_spaced {words : List String} (unbroken : ∀ word ∈ words, Unbroken word) :
    blankWords (spaced words) = words := by
  have blankFree : ∀ word ∈ [] :: words.map String.toList, ' ' ∉ word := by
    refine List.forall_mem_cons.mpr ⟨List.not_mem_nil, List.forall_mem_map.mpr ?_⟩
    exact fun word member => (unbroken word member).2
  have filled : ∀ word ∈ words.map String.toList, (!word.isEmpty) = true :=
    List.forall_mem_map.mpr fun word member => by simpa using (unbroken word member).1
  rw [blankWords, toList_spaced, List.splitOn_intercalate ' ' blankFree (List.cons_ne_nil _ _),
    List.filter_cons_of_neg (by decide), List.filter_eq_self.mpr filled, List.map_map]
  simp

/-- What a reader makes of a whole text. -/
def whole? {α : Type} (read : List Char → Option (α × List Char)) (text : String) : Option α :=
  match read text.toList with
  | some (value, []) => some value
  | _ => none

theorem whole?_natural (number : Nat) : whole? natural? number.repr = some number := by
  have read := natural?_repr number endsDigits_nil
  rw [List.append_nil] at read
  rw [whole?, read]

theorem whole?_integer (number : Int) : whole? integer? number.repr = some number := by
  have read := integer?_repr number endsDigits_nil
  rw [List.append_nil] at read
  rw [whole?, read]

end Text

/-!
## Clauses and windows
-/

/-- A clause of a paging fragment, with its numbers as they stand in the text. -/
inductive PagingClause where
  | limit (rows : Int)
  | offset (skipped : Nat)
  | offsetRows (skipped : Nat)
  | fetchNext (rows : Nat)
  | firstRows (count : Nat)
  | rowsTo (first last : Nat)
  deriving DecidableEq

namespace PagingClause

def words : PagingClause → List String
  | .limit rows => ["LIMIT", rows.repr]
  | .offset skipped => ["OFFSET", skipped.repr]
  | .offsetRows skipped => ["OFFSET", skipped.repr, "ROWS"]
  | .fetchNext rows => ["FETCH", "NEXT", rows.repr, "ROWS", "ONLY"]
  | .firstRows count => ["ROWS", count.repr]
  | .rowsTo first last => ["ROWS", first.repr, "TO", last.repr]

open Text (whole? natural? integer?) in
def ofWords? : List String → Option (List PagingClause)
  | [] => some []
  | "LIMIT" :: rows :: rest => do
    let rows ← whole? integer? rows
    let others ← ofWords? rest
    return .limit rows :: others
  | "OFFSET" :: skipped :: "ROWS" :: rest => do
    let skipped ← whole? natural? skipped
    let others ← ofWords? rest
    return .offsetRows skipped :: others
  | "OFFSET" :: skipped :: rest => do
    let skipped ← whole? natural? skipped
    let others ← ofWords? rest
    return .offset skipped :: others
  | "FETCH" :: "NEXT" :: rows :: "ROWS" :: "ONLY" :: rest => do
    let rows ← whole? natural? rows
    let others ← ofWords? rest
    return .fetchNext rows :: others
  | "ROWS" :: first :: "TO" :: last :: rest => do
    let first ← whole? natural? first
    let last ← whole? natural? last
    let others ← ofWords? rest
    return .rowsTo first last :: others
  | "ROWS" :: count :: rest => do
    let count ← whole? natural? count
    let others ← ofWords? rest
    return .firstRows count :: others
  | _ => none

theorem unbroken_words (clause : PagingClause) : ∀ word ∈ clause.words, Text.Unbroken word := by
  have keywords : ∀ word ∈ ["LIMIT", "OFFSET", "ROWS", "FETCH", "NEXT", "ONLY", "TO"],
      Text.Unbroken word := by decide
  simp only [List.forall_mem_cons] at keywords
  cases clause <;> simp [words, keywords, Text.unbroken_natural, Text.unbroken_integer]

/-- Whether no ROWS stands behind the number of an offset that has none. -/
def apart : List PagingClause → Bool
  | [] => true
  | .offset _ :: rest => (rest.flatMap words).head? ≠ some "ROWS" && apart rest
  | _ :: rest => apart rest

theorem ofWords?_offset (skipped : Nat) {rest : List String} (behind : rest.head? ≠ some "ROWS") :
    ofWords? ("OFFSET" :: skipped.repr :: rest) = (ofWords? rest).map (.offset skipped :: ·) := by
  rw [ofWords?, Text.whole?_natural]
  · exact Option.map_eq_bind.symm
  · rintro others rfl
    exact behind rfl

theorem ofWords?_firstRows (count : Nat) {rest : List String} (behind : rest.head? ≠ some "TO") :
    ofWords? ("ROWS" :: count.repr :: rest) = (ofWords? rest).map (.firstRows count :: ·) := by
  rw [ofWords?, Text.whole?_natural]
  · exact Option.map_eq_bind.symm
  · rintro last others rfl
    exact behind rfl

theorem ofWords?_words {clauses : List PagingClause} (separate : apart clauses = true) :
    ofWords? (clauses.flatMap words) = some clauses := by
  induction clauses with
  | nil => rfl
  | cons clause rest ih =>
      rw [List.flatMap_cons]
      cases clause with
      | limit rows => simp [words, ofWords?, Text.whole?_integer, ih separate]
      | offsetRows skipped | fetchNext rows | rowsTo first last =>
          simp [words, ofWords?, Text.whole?_natural, ih separate]
      -- Of these two the word behind the number decides which clause it is.
      | offset skipped =>
          obtain ⟨behind, separate⟩ := (Bool.and_eq_true _ _).mp separate
          simp [words, ofWords?_offset skipped (of_decide_eq_true behind), ih separate]
      | firstRows count =>
          have behind : (rest.flatMap words).head? ≠ some "TO" := by
            rcases rest with _ | ⟨⟨⟩, _⟩ <;> simp [words]
          simp [words, ofWords?_firstRows count behind, ih separate]

end PagingClause

/-- Which rows are kept: behind a number of rows all or so many, or those from the first to the last
position, both included, where the first row has position one. -/
inductive Window where
  | behind (skipped : Nat) (limit : Option Nat)
  | between (first last : Nat)
  deriving DecidableEq

def Window.kept {α : Type} (rows : List α) : Window → List α
  | .behind skipped none => rows.drop skipped
  | .behind skipped (some limit) => (rows.drop skipped).take limit
  | .between first last =>
    ((rows.zipIdx 1).filter fun numbered => first ≤ numbered.2 ∧ numbered.2 ≤ last).map Prod.fst

namespace Dialect

/-- The limit that a number stands for. Sqlite takes a negative number for no limit. -/
def rowLimit? (dialect : Dialect) : Int → Option (Option Nat)
  | .ofNat rows => some (some rows)
  | .negSucc _ => if dialect = .sqlite then some none else none

/-- The window that clauses keep, where the product has such clauses. -/
def windowOf? (dialect : Dialect) (clauses : List PagingClause) : Option Window :=
  match dialect, clauses with
  | _, [] => some (.behind 0 none)
  | .sqlite, [.limit rows] | .mySql, [.limit rows] | .postgreSql, [.limit rows] =>
    (dialect.rowLimit? rows).map (.behind 0)
  | .sqlite, [.limit rows, .offset skipped] | .mySql, [.limit rows, .offset skipped]
  | .postgreSql, [.limit rows, .offset skipped] =>
    (dialect.rowLimit? rows).map (.behind skipped)
  | .postgreSql, [.offset skipped] => some (.behind skipped none)
  | .sqlServer, [.offsetRows skipped] | .oracle, [.offsetRows skipped]
  | .firebird, [.offsetRows skipped] => some (.behind skipped none)
  | .sqlServer, [.offsetRows skipped, .fetchNext rows]
  | .oracle, [.offsetRows skipped, .fetchNext rows] => some (.behind skipped (some rows))
  | .firebird, [.firstRows count] => some (.behind 0 (some count))
  | .firebird, [.rowsTo first last] => some (.between first last)
  | _, _ => none

/-- The window of a paging fragment in the syntax of the product. -/
def window? (dialect : Dialect) (text : String) : Option Window :=
  (PagingClause.ofWords? (Text.blankWords text)).bind dialect.windowOf?

end Dialect

namespace Window

variable {α : Type}

private theorem filter_between (rows : List α) (first last start : Nat) :
    ((rows.zipIdx start).filter fun numbered =>
        first ≤ numbered.2 ∧ numbered.2 ≤ last).map Prod.fst =
      (rows.drop (first - start)).take (last + 1 - max first start) := by
  induction rows generalizing start with
  | nil => simp
  | cons row rest ih =>
      rw [List.zipIdx_cons]
      by_cases before : start < first
      · have drops : first - start = first - (start + 1) + 1 := by omega
        have same : max first (start + 1) = max first start := by omega
        have outside : ¬(first ≤ start ∧ start ≤ last) := by omega
        rw [List.filter_cons_of_neg (by simpa using outside), ih, drops, List.drop_succ_cons, same]
      · have drops : first - start = 0 ∧ first - (start + 1) = 0 := by omega
        have starts : max first start = start ∧ max first (start + 1) = start + 1 := by omega
        by_cases behind : last < start
        · have outside : ¬(first ≤ start ∧ start ≤ last) := by omega
          have nothing : last + 1 - start = 0 ∧ last + 1 - (start + 1) = 0 := by omega
          rw [List.filter_cons_of_neg (by simpa using outside), ih, starts.1, starts.2, nothing.1,
            nothing.2, List.take_zero, List.take_zero]
        · have inside : first ≤ start ∧ start ≤ last := by omega
          have takes : last + 1 - start = last + 1 - (start + 1) + 1 := by omega
          rw [List.filter_cons_of_pos (by simpa using inside), List.map_cons, ih, drops.1, drops.2,
            starts.1, starts.2, takes, List.drop_zero, List.drop_zero, List.take_succ_cons]

/-- Between two positions stand the rows behind those before the first, as many as there are
positions. -/
theorem kept_between (rows : List α) (skipped limit : Nat) :
    kept rows (.between (skipped + 1) (skipped + limit)) = (rows.drop skipped).take limit := by
  have starts : max (skipped + 1) 1 = skipped + 1 := by omega
  have counts : skipped + limit + 1 - (skipped + 1) = limit := by omega
  rw [kept, filter_between, starts, counts, Nat.add_sub_cancel]

/-- The window keeps the rows that a limit and an offset keep, of fewer rows than 64 bits count. -/
def Keeps (window : Window) (limit offset : Option UInt64) : Prop :=
  ∀ (α : Type) (rows : List α), rows.length < UInt64.size →
    window.kept rows = keptRows limit offset rows

theorem keeps_behind (limit offset : Option UInt64) :
    Keeps (.behind ((offset.map UInt64.toNat).getD 0) (limit.map UInt64.toNat)) limit offset := by
  intro α rows _
  cases limit <;> rfl

/-- A limit of the greatest number of 64 bits keeps all rows. -/
theorem keeps_unlimited (skipped : UInt64) :
    Keeps (.behind skipped.toNat (some (UInt64.size - 1))) none (some skipped) := by
  intro α rows fewer
  refine List.take_of_length_le ?_
  rw [List.length_drop]
  omega

theorem keeps_between (limit skipped : UInt64) :
    Keeps (.between (skipped.toNat + 1) (skipped.toNat + limit.toNat)) (some limit)
      (some skipped) :=
  fun _ rows _ => kept_between rows skipped.toNat limit.toNat

end Window

namespace Dialect

variable {dialect : Dialect} {limit offset : Option UInt64} {text : String}

/-- A fragment is read as a window that keeps what is asked for. -/
def Pages (dialect : Dialect) (limit offset : Option UInt64) (text : String) : Prop :=
  ∃ window, dialect.window? text = some window ∧ window.Keeps limit offset

theorem Pages.intro (clauses : List PagingClause) {window : Window}
    (spelled : text = Text.spaced (clauses.flatMap PagingClause.words))
    (separate : PagingClause.apart clauses = true)
    (kept : dialect.windowOf? clauses = some window) (keeps : window.Keeps limit offset) :
    dialect.Pages limit offset text := by
  have unbroken : ∀ word ∈ clauses.flatMap PagingClause.words, Text.Unbroken word := by
    intro word member
    obtain ⟨clause, _, inside⟩ := List.mem_flatMap.mp member
    exact clause.unbroken_words word inside
  refine ⟨window, ?_, keeps⟩
  rw [window?, spelled, Text.blankWords_spaced unbroken, PagingClause.ofWords?_words separate]
  exact kept

theorem pages_all (dialect : Dialect) : dialect.Pages none none "" :=
  .intro [] rfl rfl rfl (Window.keeps_behind none none)

private theorem limitClause_pages (unlimited : Option String)
    (limits : ∀ rows : Nat, dialect.windowOf? [.limit rows] = some (.behind 0 (some rows)) ∧
      ∀ skipped, dialect.windowOf? [.limit rows, .offset skipped] =
        some (.behind skipped (some rows)))
    (lone : ∀ skipped, dialect.Pages none (some skipped)
      (limitClause unlimited none (some skipped))) :
    dialect.Pages limit offset (limitClause unlimited limit offset) := by
  cases limit with
  | none =>
      cases offset with
      | none => exact pages_all dialect
      | some skipped => exact lone skipped
  | some rows =>
      have signed : (rows.toNat : Int).repr = rows.toNat.repr := by simp [Int.repr_eq_if]
      cases offset with
      | none =>
          refine .intro [.limit rows.toNat] ?_ rfl (limits _).1
            (Window.keeps_behind (some rows) none)
          simp [limitClause, Text.spaced, PagingClause.words, signed, ← String.toList_inj]
      | some skipped =>
          refine .intro [.limit rows.toNat, .offset skipped.toNat] ?_ rfl
            ((limits _).2 _) (Window.keeps_behind (some rows) (some skipped))
          simp [limitClause, Text.spaced, PagingClause.words, signed, ← String.toList_inj]

/-- The limit that a product wants before a lone offset keeps all rows. -/
private theorem pages_unlimited (number : Int) {unlimited : String} {limit : Option Nat}
    {skipped : UInt64} (spelled : unlimited = number.repr)
    (kept : dialect.rowLimit? number = some limit)
    (limits : ∀ rows, dialect.windowOf? [.limit rows, .offset skipped.toNat] =
      (dialect.rowLimit? rows).map (.behind skipped.toNat))
    (keeps : (Window.behind skipped.toNat limit).Keeps none (some skipped)) :
    dialect.Pages none (some skipped) (limitClause (some unlimited) none (some skipped)) := by
  subst spelled
  have window : dialect.windowOf? [.limit number, .offset skipped.toNat] =
      some (.behind skipped.toNat limit) := by
    rw [limits, kept]
    rfl
  refine .intro [.limit number, .offset skipped.toNat] ?_ rfl window keeps
  simp [limitClause, Text.spaced, PagingClause.words, ← String.toList_inj]

private theorem fetchClause_pages (dialect : Dialect)
    (skips : ∀ skipped, dialect.windowOf? [.offsetRows skipped] = some (.behind skipped none) ∧
      ∀ rows, dialect.windowOf? [.offsetRows skipped, .fetchNext rows] =
        some (.behind skipped (some rows))) :
    dialect.Pages limit offset (fetchClause limit offset) := by
  have limited : ∀ (rows : UInt64) (offset : Option UInt64),
      dialect.Pages (some rows) offset (fetchClause (some rows) offset) := by
    intro rows offset
    refine .intro [.offsetRows ((offset.map UInt64.toNat).getD 0),
      .fetchNext rows.toNat] ?_ rfl ((skips _).2 _) (Window.keeps_behind (some rows) offset)
    cases offset <;> simp [fetchClause, Text.spaced, PagingClause.words, ← String.toList_inj]
  cases limit with
  | some rows => exact limited rows offset
  | none =>
      cases offset with
      | none => exact pages_all dialect
      | some skipped =>
          refine .intro [.offsetRows skipped.toNat] ?_ rfl (skips _).1
            (Window.keeps_behind none (some skipped))
          simp [fetchClause, Text.spaced, PagingClause.words, ← String.toList_inj]

theorem rowsClause_fails_iff :
    (∃ error, rowsClause limit offset = .error error) ↔
      ∃ rows skipped, limit = some rows ∧ offset = some skipped ∧
        (rows = 0 ∨ UInt64.size ≤ skipped.toNat + rows.toNat) := by
  unfold rowsClause
  split
  · simp
  · simp
  · simp
  · next rows skipped =>
    simp only [Option.some.injEq, exists_eq_left', exists_and_left]
    split
    · next empty => simp [empty]
    · next filled =>
      have positive : 0 < rows.toNat := UInt64.pos_iff_ne_zero.mpr filled
      split
      · simp [filled]
        omega
      · simp [filled]
        omega

private theorem rowsClause_pages (written : rowsClause limit offset = .ok text) :
    Dialect.firebird.Pages limit offset text := by
  unfold rowsClause at written
  split at written
  · cases written
    exact pages_all _
  · next rows =>
    cases written
    refine .intro [.firstRows rows.toNat] ?_ rfl rfl
      (Window.keeps_behind (some rows) none)
    simp [Text.spaced, PagingClause.words, ← String.toList_inj]
  · next skipped =>
    cases written
    refine .intro [.offsetRows skipped.toNat] ?_ rfl rfl
      (Window.keeps_behind none (some skipped))
    simp [Text.spaced, PagingClause.words, ← String.toList_inj]
  · next rows skipped =>
    split at written
    · cases written
    · split at written
      · cases written
        refine .intro [.rowsTo (skipped.toNat + 1) (skipped.toNat + rows.toNat)]
          ?_ rfl rfl (Window.keeps_between rows skipped)
        simp [Text.spaced, PagingClause.words, ← String.toList_inj]
      · cases written

theorem pagingText_pages (written : dialect.pagingText limit offset = .ok text) :
    dialect.Pages limit offset text := by
  cases dialect with
  | sqlite =>
      cases written
      exact limitClause_pages (some "-1") (fun _ => ⟨rfl, fun _ => rfl⟩) fun skipped =>
        pages_unlimited (-1) rfl rfl (fun _ => rfl)
          (Window.keeps_behind none (some skipped))
  | mySql =>
      cases written
      have greatest : "18446744073709551615" = (18446744073709551615 : Int).repr := by decide
      exact limitClause_pages _ (fun _ => ⟨rfl, fun _ => rfl⟩) fun skipped =>
        pages_unlimited _ greatest rfl (fun _ => rfl) (Window.keeps_unlimited skipped)
  | postgreSql =>
      cases written
      refine limitClause_pages none (fun _ => ⟨rfl, fun _ => rfl⟩) fun skipped => ?_
      refine .intro [.offset skipped.toNat] ?_ rfl rfl
        (Window.keeps_behind none (some skipped))
      simp [limitClause, Text.spaced, PagingClause.words, ← String.toList_inj]
  | sqlServer | oracle =>
      cases written
      exact fetchClause_pages _ fun _ => ⟨rfl, fun _ => rfl⟩
  | firebird => exact rowsClause_pages written

/-- Paging fails only for Firebird, and there for a window that its bounds cannot name: an empty one
behind an offset, or one that ends beyond 64 bits. Every other fragment is read as a window which
keeps, of fewer rows than 64 bits count, those behind the offset up to the limit. -/
theorem pagingText_window (dialect : Dialect) (limit offset : Option UInt64) :
    ((∃ error, dialect.pagingText limit offset = .error error) ↔
      dialect = .firebird ∧ ∃ rows skipped, limit = some rows ∧ offset = some skipped ∧
        (rows = 0 ∨ UInt64.size ≤ skipped.toNat + rows.toNat)) ∧
    ∀ text, dialect.pagingText limit offset = .ok text →
      ∃ window, dialect.window? text = some window ∧
        ∀ (α : Type) (rows : List α), rows.length < UInt64.size →
          window.kept rows = keptRows limit offset rows := by
  refine ⟨?_, fun text written => pagingText_pages written⟩
  cases dialect with
  | firebird => exact rowsClause_fails_iff.trans (by simp)
  | sqlite | mySql | postgreSql | sqlServer | oracle => simp [pagingText]

/-- One row behind as many as 64 bits count, and two rows behind the first. -/
theorem pagingText_window_sampleRows :
    (∃ error, firebird.pagingText (some 1) (some 18446744073709551615) = .error error) ∧
    firebird.pagingText (some 2) (some 1) = .ok " ROWS 2 TO 3" ∧
    [10, 20, 30, 40].length < UInt64.size ∧
    ∃ window, firebird.window? " ROWS 2 TO 3" = some window ∧
      window.kept [10, 20, 30, 40] = [20, 30] := by
  have overflows := (pagingText_window firebird (some 1) (some 18446744073709551615)).1.mpr
    ⟨rfl, 1, 18446744073709551615, rfl, rfl, .inr (by decide)⟩
  have written : firebird.pagingText (some 2) (some 1) = .ok " ROWS 2 TO 3" := rfl
  have few : [10, 20, 30, 40].length < UInt64.size := by decide
  obtain ⟨window, read, kept⟩ :=
    (pagingText_window firebird (some 2) (some 1)).2 " ROWS 2 TO 3" written
  exact ⟨overflows, written, few, window, read, kept Nat [10, 20, 30, 40] few⟩

end Dialect

end QueryText
