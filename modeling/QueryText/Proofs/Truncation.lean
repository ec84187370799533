import QueryText.Statement.Rendered

/-!
# Truncation

A text that is too large for the log is cut by going back from the limit, byte by byte, until the
text can be cut. Going back passes over no boundary, so what is left is the longest beginning of
whole characters that has room, and less than one character of room is given away.
-/

set_option autoImplicit false

namespace QueryText

variable {text : String} {position : Nat}

/-!
## Going back
-/

theorem boundaryBefore_le (text : String) (position : Nat) :
    boundaryBefore text position ≤ position := by
  induction position with
  | zero => exact Nat.le_refl 0
  | succ position ih =>
      rw [boundaryBefore]
      split
      · exact Nat.le_refl _
      · exact Nat.le_succ_of_le ih

/-- No boundary up to `position` lies behind the one that going back stops at. -/
theorem le_boundaryBefore {cut : Nat} (valid : String.Pos.Raw.IsValid text ⟨cut⟩)
    (bound : cut ≤ position) : cut ≤ boundaryBefore text position := by
  induction position with
  | zero => exact bound
  | succ position ih =>
      rw [boundaryBefore]
      split
      · exact bound
      · next invalid =>
        have differs : cut ≠ position + 1 := by
          rintro rfl
          exact invalid (String.Pos.Raw.isValid_eq_true_iff.mpr valid)
        exact ih (by omega)

/-!
## Beginnings
-/

theorem beginning_splits (text : String) (position : Nat) :
    ∃ rest, text = beginning text position ++ rest ∧
      (beginning text position).utf8ByteSize = boundaryBefore text position := by
  have splits := (boundary text position).splits
  exact ⟨_, splits.eq_append, (congrArg String.Pos.Raw.byteIdx splits.offset_eq_rawEndPos).symm⟩

/-- Of the beginnings that are not larger than `position` bytes none is larger. -/
theorem size_le_beginning {front back : String} (starts : text = front ++ back) (position : Nat)
    (fits : front.utf8ByteSize ≤ position) :
    front.utf8ByteSize ≤ (beginning text position).utf8ByteSize := by
  have ends : String.Pos.Raw.IsValid text ⟨front.utf8ByteSize⟩ := by
    rw [starts]
    exact String.Pos.Raw.isValid_rawEndPos.append_right back
  obtain ⟨_, _, size⟩ := beginning_splits text position
  rw [size]
  exact le_boundaryBefore ends fits

/-- There is no room for the character that follows a beginning. -/
theorem lt_size_beginning (cut : position < text.utf8ByteSize) :
    position < (beginning text position).utf8ByteSize + 4 := by
  have splits := (boundary text position).splits
  have inside : boundary text position ≠ text.endPos := by
    intro last
    have size : boundaryBefore text position = text.utf8ByteSize :=
      congrArg (fun place : text.Pos => place.offset.byteIdx) last
    have bound := boundaryBefore_le text position
    omega
  obtain ⟨others, follows⟩ := splits.exists_eq_singleton_append inside
  have starts := splits.eq_append
  rw [follows, ← String.append_assoc] at starts
  have noRoom := size_le_beginning starts position
  rw [String.utf8ByteSize_append, String.utf8ByteSize_singleton] at noRoom
  have least := ((boundary text position).get inside).utf8Size_pos
  have most := ((boundary text position).get inside).utf8Size_le_four
  unfold beginning at noRoom ⊢
  omega

/-!
## Truncated texts
-/

/-- A text that has room is left as it is. Otherwise going back from the limit stops where the text
can be cut, and what is shown is the longest beginning of whole characters that has room; it misses
the limit by less than the four bytes that a character can have. -/
theorem truncated_longest (limit : Nat) (text : String) :
    (text.utf8ByteSize ≤ limit → truncated limit text = text) ∧
    (limit < text.utf8ByteSize →
      ∃ shown rest, truncated limit text = shown ++ "..." ∧ text = shown ++ rest ∧
        shown.utf8ByteSize = boundaryBefore text limit ∧
        String.Pos.Raw.IsValid text ⟨boundaryBefore text limit⟩ ∧
        shown.utf8ByteSize ≤ limit ∧ limit < shown.utf8ByteSize + 4 ∧
        ∀ front back, text = front ++ back → front.utf8ByteSize ≤ limit →
          front.utf8ByteSize ≤ shown.utf8ByteSize) := by
  refine ⟨fun room => if_pos room, fun cut => ?_⟩
  obtain ⟨rest, starts, size⟩ := beginning_splits text limit
  refine ⟨beginning text limit, rest, if_neg (Nat.not_le_of_lt cut), starts, size,
    boundaryBefore_valid text limit, ?_, lt_size_beginning cut, ?_⟩
  · rw [size]
    exact boundaryBefore_le text limit
  · exact fun front back starts fits => size_le_beginning starts limit fits

/-- The limit lies within the character of two bytes, so it is left out as a whole. -/
theorem truncated_longest_sampleAccent :
    9 < "SELECT 'é'".utf8ByteSize ∧ truncated 9 "SELECT 'é'" = "SELECT '..." ∧
      String.Pos.Raw.IsValid "SELECT 'é'" ⟨8⟩ ∧
      (∀ front back, "SELECT 'é'" = front ++ back → front.utf8ByteSize ≤ 9 →
        front.utf8ByteSize ≤ 8) ∧
      truncated 11 "SELECT 'é'" = "SELECT 'é'" := by
  have large : 9 < "SELECT 'é'".utf8ByteSize := by decide
  have stop : boundaryBefore "SELECT 'é'" 9 = 8 := by decide
  obtain ⟨room, _⟩ := truncated_longest 11 "SELECT 'é'"
  obtain ⟨shown, rest, _, _, size, valid, _, _, longest⟩ :=
    (truncated_longest 9 "SELECT 'é'").2 large
  rw [stop] at size valid
  rw [size] at longest
  exact ⟨large, by decide, valid, longest, room (by decide)⟩

end QueryText
