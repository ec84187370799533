import QueryText.Text.FinalSigma
import QueryText.Text.Words

/-!
# Characters of words

Cutting a name into words drops only characters that are not alphanumeric, and folding to upper case
makes no quote. So a name in upper snake case holds no quote. Folding to lower case neither makes nor
drops a text quote.
-/

set_option autoImplicit false

namespace QueryText.Text

theorem splitOnP_separates {isSeparator : Char → Bool} (characters : List Char) :
    ∀ piece ∈ characters.splitOnP isSeparator, ∀ character ∈ piece,
      isSeparator character = false := by
  induction characters with
  | nil => simp
  | cons first rest ih =>
      rw [List.splitOnP_cons_eq_if_modifyHead]
      split
      · simpa using ih
      · next inside =>
        obtain ⟨head, tail, split⟩ := List.exists_cons_of_ne_nil
          (List.splitOnP_ne_nil isSeparator rest)
        rw [split, List.forall_mem_cons] at ih
        rw [split, List.modifyHead_cons, List.forall_mem_cons, List.forall_mem_cons]
        exact ⟨⟨by simpa using inside, ih.1⟩, ih.2⟩

theorem extendFirst_flatten (character : Char) (parts : List (List Char)) :
    (extendFirst character parts).flatten = character :: parts.flatten := by
  cases parts <;> rfl

theorem cutAtCase_flatten (seen : WordCase) (piece : List Char) :
    (cutAtCase seen piece).flatten = piece := by
  fun_induction cutAtCase seen piece with
  | case1 => rfl
  | case2 => rfl
  | case3 _ _ _ _ _ ih => simp [ih]
  | case4 _ _ _ _ _ _ ih => simp [extendFirst_flatten, ih]
  | case5 _ _ _ _ _ _ ih => rw [extendFirst_flatten, ih]

theorem words_alphanumeric (name : String) :
    ∀ word ∈ words name, ∀ character ∈ word, isAlphanumeric character = true := by
  intro word found character member
  obtain ⟨piece, pieceFound, cut⟩ := List.mem_flatMap.mp found
  have inPiece : character ∈ piece := by
    rw [← cutAtCase_flatten .unseen piece]
    exact List.mem_flatten.mpr ⟨word, cut, member⟩
  have separated := splitOnP_separates _ piece (List.mem_filter.mp pieceFound).1 character inPiece
  simpa using separated

/-!
## Images of characters
-/

private theorem ofNat_ne_mark {code : Nat} {mark : Char} (visible : mark.toNat ≠ 0)
    (different : code ≠ mark.toNat) : Char.ofNat code ≠ mark := by
  rintro rfl
  by_cases valid : code.isValidChar
  · have kept : Char.ofNat code = Char.ofNatAux code valid := dif_pos valid
    exact different (congrArg Char.toNat kept).symm
  · have zero : (Char.ofNat code).toNat = 0 := by
      rw [Char.ofNat, dif_neg valid]
      rfl
    exact visible zero

/-- A mark below all targets of a case mapping is the image of no other character. -/
theorem mark_notMem_caseImage {runs : List CaseRun} {expansions : List (Nat × List Nat)}
    {mark character : Char} (visible : mark.toNat ≠ 0)
    (expanded : ∀ entry ∈ expansions, ∀ code ∈ entry.2, code ≠ mark.toNat)
    (mapped : ∀ run ∈ runs, mark.toNat < run.target) (different : character ≠ mark) :
    mark ∉ caseImage runs expansions character := by
  unfold caseImage
  split
  · next entry found =>
    intro member
    obtain ⟨code, inside, same⟩ := List.mem_map.mp member
    have distinct := expanded entry (List.mem_of_find?_eq_some found) code inside
    exact ofNat_ne_mark visible distinct same
  · split
    · next run found =>
      have above := mapped run (List.mem_of_find?_eq_some found)
      intro member
      exact ofNat_ne_mark visible (by omega) (List.mem_singleton.mp member).symm
    · intro member
      exact different (List.mem_singleton.mp member).symm

/-!
## Upper case
-/

theorem quote_notMem_upperOf {character : Char} (alphanumeric : isAlphanumeric character = true) :
    '"' ∉ upperOf character := by
  have expanded : ∀ entry ∈ upperExpansions, ∀ code ∈ entry.2, code ≠ '"'.toNat := by
    decide +kernel
  have mapped : ∀ run ∈ upperRuns, '"'.toNat < run.target := by decide +kernel
  refine mark_notMem_caseImage (by decide) expanded mapped ?_
  rintro rfl
  exact absurd alphanumeric (by decide +kernel)

theorem quote_notMem_screamingSnakeCase (name : String) :
    '"' ∉ (NamingRule.screamingSnakeCase.apply name).toList := by
  have parts : ∀ part ∈ (words name).map upperWord, '"' ∉ part := by
    intro part found
    obtain ⟨word, inside, rfl⟩ := List.mem_map.mp found
    intro member
    obtain ⟨character, wordMember, image⟩ := List.mem_flatMap.mp member
    exact quote_notMem_upperOf (words_alphanumeric name word inside character wordMember) image
  have joined : ∀ parts : List (List Char), (∀ part ∈ parts, '"' ∉ part) →
      '"' ∉ List.intercalate ['_'] parts := by
    intro parts
    induction parts with
    | nil => simp
    | cons part rest ih =>
        intro free
        rw [List.forall_mem_cons] at free
        cases rest with
        | nil => simpa using free.1
        | cons next rest =>
            rw [List.intercalate_cons_cons]
            simp [free.1, ih free.2]
  rw [NamingRule.apply, String.toList_ofList]
  exact joined _ parts

/-!
## Lower case
-/

theorem textQuote_mem_lowerOf_iff (character : Char) :
    '\'' ∈ lowerOf character ↔ character = '\'' := by
  have expanded : ∀ entry ∈ lowerExpansions, ∀ code ∈ entry.2, code ≠ '\''.toNat := by
    decide +kernel
  have mapped : ∀ run ∈ lowerRuns, '\''.toNat < run.target := by decide +kernel
  refine ⟨Decidable.not_imp_not.mp (mark_notMem_caseImage (by decide) expanded mapped), ?_⟩
  rintro rfl
  decide +kernel

theorem textQuote_mem_lowercaseFrom_iff (before characters : List Char) :
    '\'' ∈ lowercaseFrom before characters ↔ '\'' ∈ characters := by
  induction characters generalizing before with
  | nil => exact Iff.rfl
  | cons character rest ih =>
      rw [lowercaseFrom, List.mem_append, ih, List.mem_cons]
      refine or_congr_left ?_
      split
      · -- Neither a capital sigma nor either of its images is a quote.
        next sigma =>
        subst sigma
        split <;> decide
      · rw [textQuote_mem_lowerOf_iff]
        exact eq_comm

theorem textQuote_mem_lowercase_iff (text : String) :
    '\'' ∈ (lowercase text).toList ↔ '\'' ∈ text.toList := by
  rw [lowercase, String.toList_ofList]
  exact textQuote_mem_lowercaseFrom_iff [] text.toList

end QueryText.Text
