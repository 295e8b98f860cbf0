import Mathlib.Data.List.Infix
import Schemata.Text.Lines
import Schemata.Text.Words

/-!
# Texts that are put together

What cutting a text finds in a part of it. Cutting at separators finds the pieces of both parts on
either side of a separator (`splitWhere_append`), and so do words and lines.
-/

namespace Schemata.Text

section Pieces

variable {isSeparator : Char → Bool}

/-- A separator ends an empty piece. -/
theorem splitWhere_cons_of_separator {c : Char} (separates : isSeparator c = true)
    (rest : List Char) :
    splitWhere isSeparator (c :: rest) = [] :: splitWhere isSeparator rest := by
  rw [splitWhere, if_pos separates]

/-- A character that does not separate belongs to the first piece. -/
theorem splitWhere_cons_of_free {c : Char} (free : isSeparator c = false) {rest piece : List Char}
    {pieces : List (List Char)} (split : splitWhere isSeparator rest = piece :: pieces) :
    splitWhere isSeparator (c :: rest) = (c :: piece) :: pieces := by
  rw [splitWhere, if_neg (by simp [free]), split]

/-- The pieces on both sides of a separator are those of each side. -/
theorem splitWhere_append {separator : Char} (separates : isSeparator separator = true)
    (front rest : List Char) :
    splitWhere isSeparator (front ++ separator :: rest) =
      splitWhere isSeparator front ++ splitWhere isSeparator rest := by
  induction front with
  | nil => exact splitWhere_cons_of_separator separates rest
  | cons c front inductionHypothesis =>
      cases free : isSeparator c with
      | true =>
          rw [List.cons_append, splitWhere_cons_of_separator free, inductionHypothesis,
            splitWhere_cons_of_separator free, List.cons_append]
      | false =>
          obtain ⟨piece, pieces, split⟩ :=
            List.exists_cons_of_ne_nil (splitWhere_ne_nil isSeparator front)
          rw [split, List.cons_append] at inductionHypothesis
          rw [List.cons_append, splitWhere_cons_of_free free inductionHypothesis,
            splitWhere_cons_of_free free split, List.cons_append]

/-- A text without separators is one piece. -/
theorem splitWhere_of_free {text : List Char} (free : ∀ c ∈ text, isSeparator c = false) :
    splitWhere isSeparator text = [text] := by
  induction text with
  | nil => rfl
  | cons c text inductionHypothesis =>
      have rest := inductionHypothesis fun other member =>
        free other (List.mem_cons_of_mem _ member)
      exact splitWhere_cons_of_free (free c List.mem_cons_self) rest

/-- Pieces that each have a separator behind them are found before what follows. -/
theorem splitWhere_flatMap {separator : Char} (separates : isSeparator separator = true)
    {pieces : List (List Char)} (free : ∀ piece ∈ pieces, ∀ c ∈ piece, isSeparator c = false)
    (rest : List Char) :
    splitWhere isSeparator (pieces.flatMap (fun piece => piece ++ [separator]) ++ rest) =
      pieces ++ splitWhere isSeparator rest := by
  induction pieces with
  | nil => rfl
  | cons piece pieces inductionHypothesis =>
      obtain ⟨first, others⟩ := List.forall_mem_cons.1 free
      rw [List.flatMap_cons, List.append_assoc, List.append_assoc, List.singleton_append,
        splitWhere_append separates, splitWhere_of_free first, inductionHypothesis others]
      rfl

end Pieces

/-- A character repeated a number of times. -/
theorem toList_repeated {text : String} {c : Char} (single : text.toList = [c]) (count : Nat) :
    (repeated text count).toList = List.replicate count c := by
  induction count with
  | zero => rfl
  | succ count inductionHypothesis =>
      simp only [repeated, String.toList_join] at inductionHypothesis
      simp [repeated, String.toList_join, List.replicate_succ, single, inductionHypothesis]

/-! ## Words -/

/-- Words do not go on over an underscore. -/
theorem words_append (front rest : String) :
    words (front ++ "_" ++ rest) = words front ++ words rest := by
  have separated : (front ++ "_" ++ rest).toList = front.toList ++ '_' :: rest.toList := by simp
  rw [words, separated, splitWhere_append (by decide), List.flatMap_append]
  rfl

/-- A name in small letters starts with what stands before an underscore in it. -/
theorem snakeCase_isPrefix (front rest : String) :
    (snakeCase front).toList <+: (snakeCase (front ++ "_" ++ rest)).toList := by
  unfold snakeCase
  rw [words_append, List.map_append]
  generalize (words front).map (fun word => String.ofList (smallWord word)) = first
  generalize (words rest).map (fun word => String.ofList (smallWord word)) = second
  by_cases noFirst : first = []
  · simp [noFirst]
  by_cases noSecond : second = []
  · simp [noSecond]
  · rw [String.intercalate_append_of_ne_nil noFirst noSecond, String.append_assoc,
      String.toList_append]
    exact List.prefix_append _ _

/-! ## Lines -/

/-- All pieces but the last one are complete lines. -/
theorem finishLines_append (front : List (List Char)) {rest : List (List Char)}
    (others : rest ≠ []) :
    finishLines (front ++ rest) = front.map dropTrailingReturn ++ finishLines rest := by
  induction front with
  | nil => rfl
  | cons line front inductionHypothesis =>
      obtain ⟨next, following, shape⟩ := List.exists_cons_of_ne_nil
        (List.append_ne_nil_of_right_ne_nil front others)
      rw [List.cons_append, List.map_cons, List.cons_append, ← inductionHypothesis, shape,
        finishLines]
      exact List.cons_ne_nil _ _

end Schemata.Text
