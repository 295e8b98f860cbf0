import Schemata.Proofs.Text.Pieces

/-!
# Moving the lines of a text to the right

A text can be laid out anew line by line, with something put before every line that is not empty
(`relaid`). What becomes of a part of a text in this way depends on whether a line starts with it,
but not on the other lines: `reindented` is what becomes of a part that stands inside a line. A text
of one line stays as it is, and no other does (`reindented_eq_iff`).
-/

namespace Schemata.Text

/-! ## Moving lines to the right -/

/-- Whether the first line of a text is empty and ends. -/
def startsEmpty (text : List Char) : Bool :=
  text.head? = some '\n' || text.head? = some '\r' && text.tail.head? = some '\n'

/-- What is put before the first line of a text; nothing, if it is empty. -/
def opening (indent text : List Char) : List Char :=
  if startsEmpty text then [] else indent

/-- A text with all its lines but the first moved to the right. Nothing is put before an empty line,
and a return right before a newline is dropped. -/
def reindented (indent : List Char) : List Char → List Char
  | [] => []
  | c :: rest =>
    if c = '\n' then '\n' :: (opening indent rest ++ reindented indent rest)
    else if c = '\r' ∧ rest.head? = some '\n' then reindented indent rest
    else c :: reindented indent rest

/-- A line as it is laid out; nothing is put before an empty one. -/
def laidOut (indent line : List Char) : List Char :=
  (if line.isEmpty then [] else indent ++ line) ++ ['\n']

/-- A text whose lines are laid out one by one. -/
def relaid (indent text : List Char) : List Char :=
  (finishLines (splitWhere (· = '\n') text)).flatMap (laidOut indent)

/-! ## Where lines start -/

/--
A first line with a character in it is not empty, unless that is the return before its newline.
-/
theorem startsEmpty_cons_eq_false {c : Char} {rest : List Char} :
    startsEmpty (c :: rest) = false ↔ c ≠ '\n' ∧ (c = '\r' → rest.head? ≠ some '\n') := by
  grind [startsEmpty]

/-- Without a newline, no line ends. -/
theorem startsEmpty_of_free {text : List Char} (free : '\n' ∉ text) : startsEmpty text = false := by
  cases text with
  | nil => rfl
  | cons c rest =>
      refine startsEmpty_cons_eq_false.2 ⟨fun isNewline => free (by simp [isNewline]), ?_⟩
      intro _ follows
      exact free (List.mem_cons_of_mem c (List.mem_of_mem_head? follows))

/-- What follows a text does not matter, unless it ends a line. -/
theorem startsEmpty_append {c : Char} (noNewline : c ≠ '\n') (noReturn : c ≠ '\r')
    (text rest : List Char) : startsEmpty (text ++ c :: rest) = startsEmpty text := by
  cases text with
  | nil => exact startsEmpty_cons_eq_false.2 ⟨noNewline, fun isReturn => absurd isReturn noReturn⟩
  | cons first text => cases text <;> simp [startsEmpty, noNewline]

/-- The first character of a line stays, unless it is the return that is dropped. -/
theorem dropTrailingReturn_cons {c : Char} {line : List Char} (inside : c = '\r' → line ≠ []) :
    dropTrailingReturn (c :: line) = c :: dropTrailingReturn line := by
  cases line with
  | nil =>
      have visible : c ≠ '\r' := fun isReturn => inside isReturn rfl
      simp [dropTrailingReturn, visible]
  | cons d line =>
      unfold dropTrailingReturn
      rw [List.getLast?_cons_cons]
      split <;> rfl

/-- A line is empty if nothing but a return stands in it. -/
theorem startsEmpty_line {line : List Char} (free : '\n' ∉ line) (rest : List Char) :
    startsEmpty (line ++ '\n' :: rest) = (dropTrailingReturn line).isEmpty := by
  cases line with
  | nil => rfl
  | cons c line =>
      by_cases inside : c = '\r' → line ≠ []
      · rw [dropTrailingReturn_cons inside, List.isEmpty_cons, List.cons_append,
          startsEmpty_cons_eq_false]
        refine ⟨fun isNewline => free (isNewline ▸ List.mem_cons_self), fun isReturn => ?_⟩
        cases line with
        | nil => exact absurd rfl (inside isReturn)
        | cons d line => grind
      · obtain ⟨rfl, rfl⟩ : c = '\r' ∧ line = [] := by simpa using inside
        rfl

/-! ## Lines one by one -/

section Lines

variable (indent : List Char)

/-- Behind a newline, the next line is moved to the right. -/
theorem reindented_newline (rest : List Char) :
    reindented indent ('\n' :: rest) = '\n' :: (opening indent rest ++ reindented indent rest) := by
  simp [reindented]

/-- A return right before a newline is dropped. -/
theorem reindented_return (rest : List Char) :
    reindented indent ('\r' :: '\n' :: rest) = reindented indent ('\n' :: rest) := by
  rw [reindented, if_neg (by decide), if_pos (by simp)]

/-- A character stays, unless a line ends with it. -/
theorem reindented_cons {c : Char} {rest : List Char} (stays : startsEmpty (c :: rest) = false) :
    reindented indent (c :: rest) = c :: reindented indent rest := by
  obtain ⟨noNewline, noReturn⟩ := startsEmpty_cons_eq_false.1 stays
  rw [reindented, if_neg noNewline, if_neg (not_and.2 noReturn)]

/-- A text without newlines stays as it is. -/
theorem reindented_of_free {text : List Char} (free : '\n' ∉ text) :
    reindented indent text = text := by
  induction text with
  | nil => rfl
  | cons c text inductionHypothesis =>
      rw [reindented_cons indent (startsEmpty_of_free free),
        inductionHypothesis fun member => free (List.mem_cons_of_mem _ member)]

/-- What follows a newline starts a line of its own. -/
theorem reindented_line {line : List Char} (free : '\n' ∉ line) (rest : List Char) :
    reindented indent (line ++ '\n' :: rest) =
      dropTrailingReturn line ++ '\n' :: (opening indent rest ++ reindented indent rest) := by
  induction line with
  | nil => exact reindented_newline indent rest
  | cons c line inductionHypothesis =>
      have lineFree : '\n' ∉ line := fun member => free (List.mem_cons_of_mem _ member)
      by_cases inside : c = '\r' → line ≠ []
      · have stays := startsEmpty_line free rest
        rw [dropTrailingReturn_cons inside, List.isEmpty_cons, List.cons_append] at stays
        rw [List.cons_append, reindented_cons indent stays, inductionHypothesis lineFree,
          dropTrailingReturn_cons inside, List.cons_append]
      · obtain ⟨rfl, rfl⟩ : c = '\r' ∧ line = [] := by simpa using inside
        exact (reindented_return indent rest).trans (reindented_newline indent rest)

/-- What is put before a line, with the line and its newline, is the line laid out. -/
theorem opening_line {line : List Char} (free : '\n' ∉ line) (rest : List Char) :
    opening indent (line ++ '\n' :: rest) ++ dropTrailingReturn line ++ ['\n'] =
      laidOut indent (dropTrailingReturn line) := by
  unfold opening laidOut
  rw [startsEmpty_line free]
  split
  next empty => simp [List.isEmpty_iff.1 empty]
  next => rfl

/-- Lines are laid out one by one. -/
theorem relaid_append (front rest : List Char) :
    relaid indent (front ++ '\n' :: rest) =
      relaid indent (front ++ ['\n']) ++ relaid indent rest := by
  unfold relaid
  rw [splitWhere_append (by decide), splitWhere_append (by decide),
    finishLines_append _ (splitWhere_ne_nil _ _),
    finishLines_append _ (splitWhere_ne_nil _ _)]
  simp [splitWhere, finishLines]

/-- A text is laid out line by line. -/
theorem relaid_line {line : List Char} (free : '\n' ∉ line) (rest : List Char) :
    relaid indent (line ++ '\n' :: rest) =
      laidOut indent (dropTrailingReturn line) ++ relaid indent rest := by
  have single : splitWhere (· = '\n') line = [line] :=
    splitWhere_of_free fun c member => by grind
  rw [relaid, splitWhere_append (by decide), single,
    finishLines_append _ (splitWhere_ne_nil _ _)]
  rfl

/-- To lay out lines one by one is to move all of them but the first, and to put the first behind
what stands before it. -/
theorem relaid_append_indent (front : List Char) :
    relaid indent (front ++ ['\n']) ++ indent =
      opening indent (front ++ ['\n']) ++ reindented indent (front ++ ['\n']) := by
  by_cases lines : '\n' ∈ front
  -- The recursion is on the lines, not on the characters: a line is laid out as a whole.
  · obtain ⟨line, rest, split, free⟩ := List.eq_append_cons_of_mem lines
    have others := relaid_append_indent rest
    rw [split, List.append_assoc, List.cons_append, relaid_line indent free,
      reindented_line indent free, List.append_assoc, others,
      ← opening_line indent free (rest ++ ['\n'])]
    simp
  · rw [relaid_line indent lines, reindented_line indent lines, ← opening_line indent lines []]
    simp [relaid, splitWhere, finishLines, opening, startsEmpty, reindented]
termination_by front.length
decreasing_by
  rw [split, List.length_append, List.length_cons]
  omega

/-- Parts of a text are moved on their own, if the second does not end a line of the first. -/
theorem reindented_append {c : Char} (noNewline : c ≠ '\n') (noReturn : c ≠ '\r')
    (text rest : List Char) :
    reindented indent (text ++ c :: rest) =
      reindented indent text ++ reindented indent (c :: rest) := by
  have starts (text : List Char) := startsEmpty_append noNewline noReturn text rest
  fun_induction reindented indent text with
  | case1 => rfl
  | case2 text inductionHypothesis =>
      rw [List.cons_append, reindented_newline, inductionHypothesis, opening, starts]
      simp [opening]
  | case3 first text _ ends inductionHypothesis =>
      obtain ⟨rfl, follows⟩ := ends
      obtain ⟨text, rfl⟩ := List.head?_eq_some_iff.1 follows
      rw [← inductionHypothesis]
      exact reindented_return indent _
  | case4 first text isVisible stays inductionHypothesis =>
      have staysAlone : startsEmpty (first :: text) = false :=
        startsEmpty_cons_eq_false.2 ⟨isVisible, not_and.1 stays⟩
      rw [List.cons_append, reindented_cons, inductionHypothesis, List.cons_append]
      rw [← List.cons_append, starts, staysAlone]

/-- What stands in one line before a text stays. -/
theorem append_reindented {front : List Char} (plain : ∀ c ∈ front, c ≠ '\n' ∧ c ≠ '\r')
    (rest : List Char) : reindented indent (front ++ rest) = front ++ reindented indent rest := by
  induction front with
  | nil => rfl
  | cons c front inductionHypothesis =>
      obtain ⟨noNewline, noReturn⟩ := plain c List.mem_cons_self
      rw [List.cons_append, reindented_cons, List.cons_append,
        inductionHypothesis fun other member => plain other (List.mem_cons_of_mem c member)]
      exact startsEmpty_cons_eq_false.2 ⟨noNewline, fun isReturn => absurd isReturn noReturn⟩

/-- No character but a return gets lost. -/
theorem count_le_count_reindented {c : Char} (noReturn : c ≠ '\r') (text : List Char) :
    text.count c ≤ (reindented indent text).count c := by
  fun_induction reindented indent text with
  | case1 => rfl
  | case2 text inductionHypothesis =>
      simp only [List.count_cons, List.count_append]
      omega
  | case3 first text _ ends inductionHypothesis =>
      obtain ⟨rfl, -⟩ := ends
      rwa [List.count_cons_of_ne noReturn.symm]
  | case4 first text _ _ inductionHypothesis =>
      simp only [List.count_cons]
      omega

/-- The last line is moved, so there is more before it than there was. -/
theorem count_lt_count_reindented {c : Char} (inside : c ∈ indent) (noReturn : c ≠ '\r')
    {text : List Char} (lines : '\n' ∈ text) :
    text.count c < (reindented indent text).count c := by
  fun_induction reindented indent text with
  | case1 => cases lines
  | case2 text inductionHypothesis =>
      simp only [List.count_cons, List.count_append]
      by_cases more : '\n' ∈ text
      · have others := inductionHypothesis more
        omega
      · have others := count_le_count_reindented indent noReturn text
        have before : 0 < (opening indent text).count c := by
          rw [opening, startsEmpty_of_free more]
          exact List.count_pos_iff.2 inside
        omega
  | case3 first text _ ends inductionHypothesis =>
      obtain ⟨rfl, follows⟩ := ends
      rw [List.count_cons_of_ne noReturn.symm]
      exact inductionHypothesis (List.mem_of_mem_head? follows)
  | case4 first text noNewline _ inductionHypothesis =>
      have others := inductionHypothesis (by simpa [Ne.symm noNewline] using lines)
      simp only [List.count_cons]
      omega

/-- Only a text of one line stays as it is. -/
theorem reindented_eq_iff {c : Char} (inside : c ∈ indent) (noReturn : c ≠ '\r')
    {text : List Char} : reindented indent text = text ↔ '\n' ∉ text := by
  refine ⟨fun same lines => ?_, reindented_of_free indent⟩
  have more := count_lt_count_reindented indent inside noReturn lines
  rw [same] at more
  exact Nat.lt_irrefl _ more

end Lines

end Schemata.Text
