import DerivedFields.Text.Search

/-!
# Texts in lines

A text in lines has a line feed behind each line, perhaps with a carriage return in front of it. The last
line may do without. The lines are found again, whichever ends they have.
-/

namespace DerivedFields.Text

/-- A text is written in lines. Where a carriage return stands in front of a line feed, it belongs to the
end of the line. -/
inductive Lined : List (List Char) → List Char → Prop
  | nil : Lined [] []
  | last {line : List Char} (nonempty : line ≠ []) (noFeed : '\n' ∉ line) : Lined [line] line
  | feed {line text : List Char} {lines : List (List Char)} (noFeed : '\n' ∉ line)
    (noReturn : line.getLast? ≠ some '\r') (rest : Lined lines text) :
    Lined (line :: lines) (line ++ '\n' :: text)
  | returnFeed {line text : List Char} {lines : List (List Char)} (noFeed : '\n' ∉ line)
    (rest : Lined lines text) : Lined (line :: lines) (line ++ '\r' :: '\n' :: text)

/-- What stands in front of the first line feed is the first line, without its carriage return. -/
theorem linesOf_feed {line : List Char} (noFeed : '\n' ∉ line) (text : List Char) :
    linesOf (splitAtChar '\n' (line ++ '\n' :: text)) =
      dropCarriageReturn line :: linesOf (splitAtChar '\n' text) := by
  rw [splitAtChar_append, splitAtChar_of_notMem noFeed, List.singleton_append, linesOf]
  exact splitAtChar_ne_nil '\n' text

private theorem Lined.linesOf_eq {lines : List (List Char)} {text : List Char}
    (lined : Lined lines text) :
    linesOf (splitAtChar '\n' text) = lines := by
  induction lined with
  | nil => rfl
  | @last line nonempty noFeed =>
    rw [splitAtChar_of_notMem noFeed, linesOf, if_neg (by simpa using nonempty)]
  | feed noFeed noReturn _ ih => rw [linesOf_feed noFeed, ih, dropCarriageReturn, if_neg noReturn]
  | @returnFeed line text lines noFeed _ ih =>
    have whole : '\n' ∉ line ++ ['\r'] := by simpa using noFeed
    have split : line ++ '\r' :: '\n' :: text = line ++ ['\r'] ++ '\n' :: text := by simp
    rw [split, linesOf_feed whole, ih, dropCarriageReturn, List.getLast?_concat, if_pos rfl,
      List.dropLast_concat]

/-- The lines of a text are found again. -/
theorem Lined.lines_eq {lines : List (List Char)} {text : String} (lined : Lined lines text.toList) :
    Text.lines text = lines := lined.linesOf_eq

/-! ## How long a line is -/

private theorem length_le_of_mem_splitAtChar {separator : Char} {text piece : List Char}
    (member : piece ∈ splitAtChar separator text) : piece.length ≤ text.length := by
  induction text generalizing piece with
  | nil =>
    obtain rfl := List.mem_singleton.mp member
    exact Nat.le_refl _
  | cons c text ih =>
    rw [splitAtChar] at member
    split at member
    · rcases List.mem_cons.mp member with rfl | later
      · exact Nat.zero_le _
      · exact Nat.le_succ_of_le (ih later)
    · split at member
      · next first others pieces =>
        rcases List.mem_cons.mp member with rfl | later
        · exact Nat.succ_le_succ (ih (pieces ▸ List.mem_cons_self))
        · exact Nat.le_succ_of_le (ih (pieces ▸ List.mem_cons_of_mem _ later))
      · next none => exact absurd none (splitAtChar_ne_nil separator text)

private theorem length_le_of_mem_linesOf {pieces : List (List Char)} {line : List Char}
    {bound : Nat} (bounded : ∀ piece ∈ pieces, piece.length ≤ bound) (member : line ∈ linesOf pieces) :
    line.length ≤ bound := by
  fun_induction linesOf pieces with
  | case1 => cases member
  | case2 last empty => cases member
  | case3 last some => exact bounded line member
  | case4 first rest _ ih =>
    rcases List.mem_cons.mp member with rfl | later
    · have kept : (dropCarriageReturn first).length ≤ first.length := by
        rw [dropCarriageReturn]
        split
        · exact (List.dropLast_sublist first).length_le
        · exact Nat.le_refl _
      exact Nat.le_trans kept (bounded first List.mem_cons_self)
    · exact ih (fun piece inside => bounded piece (List.mem_cons_of_mem _ inside)) later

/-- A line is no longer than its text. -/
theorem length_le_of_mem_lines {text : String} {line : List Char} (member : line ∈ lines text) :
    line.length ≤ text.length := by
  rw [← String.length_toList]
  exact length_le_of_mem_linesOf (fun _ inside => length_le_of_mem_splitAtChar inside) member

end DerivedFields.Text
