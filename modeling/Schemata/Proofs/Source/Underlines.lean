import Schemata.Proofs.Source.Places
import Schemata.Proofs.Text.Pieces

/-!
# What a snippet underlines

A snippet of a place on a line shows the line before it, the line itself and an underline. Both
lines stand behind their numbers, and the underline starts six characters further right than the
place stands on its line. That is under the place as long as the number of the line has at most four
digits, and further left otherwise (`underline_aligned_iff`).
-/

namespace Schemata

/-! ## Lines of a source -/

/-- What stands between the newlines of a source. -/
def piecesOf (source : String) : List (List Char) :=
  Text.splitWhere (· = '\n') source.toList

/-- A line of a source, counted from zero, without a carriage return at its end. -/
def lineAt (source : String) (index : Nat) : List Char :=
  Text.dropTrailingReturn ((piecesOf source).getD index [])

/-- Lines with their newlines. -/
def joinedLines (lines : List (List Char)) : List Char :=
  lines.flatMap (· ++ ['\n'])

/-- An offset falls on a line, behind a part of it: on the character that follows, or on its end. -/
structure FallsOn (source : String) (offset index : Nat) (front : List Char) : Prop where
  counted : index < (piecesOf source).length
  within : front <+: lineAt source index
  offset : offset = byteLength (joinedLines ((piecesOf source).take index)) + byteLength front

/-- A line of a source as a snippet shows it: its number, and its text with the tabs as spaces. -/
def shownLine (number : Nat) (line : List Char) : List Char :=
  (Text.padLeft 4 (toString number)).toList ++ (": ".toList ++ showTabs line)

/-- The line before a line as a snippet shows it, if there is one. -/
def shownAbove (source : String) : Nat → List (List Char)
  | 0 => []
  | index + 1 => [shownLine (index + 1) (lineAt source index)]

/-- An underline of some marks behind some spaces. -/
def underline (indent size : Nat) : List Char :=
  List.replicate indent ' ' ++ List.replicate (max size 1) '^'

/-! ## Cutting at newlines -/

/-- Lines without newlines in them are cut apart again. -/
theorem splitWhere_joinedLines {lines : List (List Char)} {last : List Char}
    (free : ∀ line ∈ lines, ∀ c ∈ line, c ≠ '\n') (lastFree : ∀ c ∈ last, c ≠ '\n') :
    Text.splitWhere (· = '\n') (joinedLines lines ++ last) = lines ++ [last] := by
  have one : ∀ line : List Char, (∀ c ∈ line, c ≠ '\n') →
      Text.splitWhere (· = '\n') line = [line] :=
    fun line lineFree => Text.splitWhere_of_free (by simpa using lineFree)
  induction lines with
  | nil => exact one last lastFree
  | cons line lines inductionHypothesis =>
      obtain ⟨lineFree, othersFree⟩ := List.forall_mem_cons.1 free
      have shape : joinedLines (line :: lines) ++ last =
          line ++ '\n' :: (joinedLines lines ++ last) := by
        simp [joinedLines]
      rw [shape, Text.splitWhere_append (by decide), one line lineFree,
        inductionHypothesis othersFree, List.singleton_append, List.cons_append]

/-- The pieces of a text stand in it one after another, behind newlines, and hold no newline. -/
theorem eq_append_of_splitWhere {text first : List Char} {others : List (List Char)}
    (pieces : Text.splitWhere (· = '\n') text = first :: others) :
    text = first ++ others.flatMap (List.cons '\n') ∧
      ∀ piece ∈ first :: others, ∀ c ∈ piece, c ≠ '\n' := by
  induction text generalizing first others with
  | nil =>
      cases pieces
      exact ⟨rfl, by simp⟩
  | cons c text inductionHypothesis =>
      obtain ⟨next, following, rest⟩ :=
        List.exists_cons_of_ne_nil (Text.splitWhere_ne_nil (· = '\n') text)
      obtain ⟨whole, free⟩ := inductionHypothesis rest
      by_cases isNewline : c = '\n'
      · rw [Text.splitWhere_cons_of_separator (by simpa using isNewline), rest] at pieces
        cases pieces
        refine ⟨?_, List.forall_mem_cons.2 ⟨List.forall_mem_nil _, free⟩⟩
        rw [isNewline, whole]
        rfl
      · rw [Text.splitWhere_cons_of_free (by simpa using isNewline) rest] at pieces
        cases pieces
        obtain ⟨nextFree, followingFree⟩ := List.forall_mem_cons.1 free
        refine ⟨congrArg (List.cons c) whole, ?_⟩
        exact List.forall_mem_cons.2 ⟨List.forall_mem_cons.2 ⟨isNewline, nextFree⟩, followingFree⟩

/-- A newline behind lines that stand behind newlines is as good as one before all of them. -/
theorem flatMap_newline_append (lines : List (List Char)) (rest : List Char) :
    lines.flatMap (List.cons '\n') ++ '\n' :: rest = '\n' :: (joinedLines lines ++ rest) := by
  induction lines with
  | nil => rfl
  | cons line lines inductionHypothesis =>
      simp only [joinedLines, List.flatMap_cons, List.append_assoc] at inductionHypothesis ⊢
      rw [inductionHypothesis]
      simp

/-- A text is put together from the pieces before a piece, that piece, and those behind it. -/
theorem eq_joinedLines_append {text piece : List Char} {before following : List (List Char)}
    (pieces : Text.splitWhere (· = '\n') text = before ++ piece :: following) :
    text = joinedLines before ++ (piece ++ following.flatMap (List.cons '\n')) := by
  cases before with
  | nil => exact (eq_append_of_splitWhere pieces).1
  | cons first before =>
      rw [List.cons_append] at pieces
      rw [(eq_append_of_splitWhere pieces).1, List.flatMap_append, List.flatMap_cons,
        List.cons_append, flatMap_newline_append]
      simp [joinedLines]

/-- The pieces of a source hold no newline. -/
theorem piecesOf_free (source : String) : ∀ piece ∈ piecesOf source, ∀ c ∈ piece, c ≠ '\n' := by
  obtain ⟨first, others, shape⟩ := List.exists_cons_of_ne_nil
    (Text.splitWhere_ne_nil (· = '\n') source.toList)
  rw [piecesOf, shape]
  exact (eq_append_of_splitWhere shape).2

/-- A line and its end: a carriage return, or nothing. -/
theorem exists_ending (piece : List Char) :
    ∃ ending, piece = Text.dropTrailingReturn piece ++ ending := by
  unfold Text.dropTrailingReturn
  split
  · next last =>
    obtain ⟨front, rfl⟩ := List.getLast?_eq_some_iff.1 last
    exact ⟨['\r'], by rw [List.dropLast_concat]⟩
  · exact ⟨[], (List.append_nil piece).symm⟩

/-- A line of the source has no newline. -/
theorem lineAt_free (source : String) (index : Nat) : ∀ c ∈ lineAt source index, c ≠ '\n' := by
  intro c member
  obtain ⟨ending, shape⟩ := exists_ending ((piecesOf source).getD index [])
  have inPiece : c ∈ (piecesOf source).getD index [] := by
    rw [shape]
    exact List.mem_append_left ending member
  by_cases counted : index < (piecesOf source).length
  · rw [← List.getElem_eq_getD (h := counted)] at inPiece
    exact piecesOf_free source _ (List.getElem_mem counted) c inPiece
  · rw [List.getD_eq_getElem?_getD, List.getElem?_eq_none (Nat.le_of_not_lt counted)] at inPiece
    cases inPiece

/-! ## Where an offset falls -/

/--
A line of a source among its lines: those before it, its own in three parts, and those behind it.
The last part of a line is the carriage return at its end, or nothing.
-/
structure LineCut (source : String) (before : List (List Char)) (front back ending : List Char)
    (following : List (List Char)) : Prop where
  pieces : piecesOf source = before ++ (front ++ (back ++ ending)) :: following
  line : Text.dropTrailingReturn (front ++ (back ++ ending)) = front ++ back

/-- An offset that falls on a line cuts it there. -/
theorem FallsOn.exists_lineCut {source : String} {offset index : Nat} {front : List Char}
    (falls : FallsOn source offset index front) :
    ∃ before back ending following, LineCut source before front back ending following ∧
      before.length = index ∧ offset = byteLength (joinedLines before ++ front) := by
  obtain ⟨counted, ⟨back, whole⟩, isOffset⟩ := falls
  have found : (piecesOf source).getD index [] = (piecesOf source)[index] :=
    (List.getElem_eq_getD []).symm
  obtain ⟨ending, shape⟩ := exists_ending (piecesOf source)[index]
  rw [lineAt, found] at whole
  rw [← whole, List.append_assoc] at shape
  refine ⟨(piecesOf source).take index, back, ending, (piecesOf source).drop (index + 1), ⟨?_, ?_⟩,
    ?_, ?_⟩
  · rw [← shape, ← List.drop_eq_getElem_cons counted, List.take_append_drop]
  · rw [← shape, whole]
  · exact List.length_take_of_le (Nat.le_of_lt counted)
  · rw [isOffset, byteLength_append]

namespace LineCut

variable {source : String} {before following : List (List Char)} {front back ending : List Char}

/-- The whole source around the cut. -/
theorem toList_eq (cut : LineCut source before front back ending following) :
    source.toList = joinedLines before ++ front ++
      (back ++ ending ++ following.flatMap (List.cons '\n')) := by
  rw [eq_joinedLines_append cut.pieces]
  simp only [List.append_assoc]

/-- None of the lines that a source is cut into has a newline. -/
theorem pieces_free (cut : LineCut source before front back ending following) :
    ∀ piece ∈ before ++ (front ++ (back ++ ending)) :: following, ∀ c ∈ piece, c ≠ '\n' :=
  cut.pieces ▸ piecesOf_free source

/-- No line in front of the one that is shown has a newline. -/
theorem before_free (cut : LineCut source before front back ending following) :
    ∀ line ∈ before, ∀ c ∈ line, c ≠ '\n' :=
  (List.forall_mem_append.1 cut.pieces_free).1

/-- The line that is shown has no newline. -/
theorem line_free (cut : LineCut source before front back ending following) :
    ∀ c ∈ front ++ (back ++ ending), c ≠ '\n' :=
  cut.pieces_free _ (List.mem_append_right _ List.mem_cons_self)

/-- What stands in front of the marked part of the line has no newline. -/
theorem front_free (cut : LineCut source before front back ending following) :
    ∀ c ∈ front, c ≠ '\n' :=
  (List.forall_mem_append.1 cut.line_free).1

/-- The line that is cut is both of its parts, without its ending. -/
theorem lineAt_eq (cut : LineCut source before front back ending following) :
    lineAt source before.length = front ++ back := by
  rw [lineAt, cut.pieces, List.getD_eq_getElem?_getD, List.getElem?_append_right (Nat.le_refl _),
    Nat.sub_self, List.getElem?_cons_zero, Option.getD_some, cut.line]

/-- The lines around the cut are found. -/
theorem context_eq (cut : LineCut source before front back ending following) :
    LineContext.at? source.toList (byteLength (joinedLines before ++ front)) =
      some ⟨before.getLast?.map Text.dropTrailingReturn, front ++ back⟩ := by
  have stops : (following.flatMap (List.cons '\n')).takeWhile (· ≠ '\n') = [] := by
    cases following <;> simp
  have taken : (back ++ ending ++ following.flatMap (List.cons '\n')).takeWhile (· ≠ '\n') =
      back ++ ending := by
    have free := (List.forall_mem_append.1 cut.line_free).2
    rw [List.takeWhile_append_of_pos (by simpa using free), stops, List.append_nil]
  rw [LineContext.at?, cut.toList_eq, cutAtByte?_append, Option.map_some]
  dsimp only
  rw [splitWhere_joinedLines cut.before_free cut.front_free, List.dropLast_concat, taken,
    List.getLastD_concat, cut.line]

end LineCut

/-- Whole lines lead to the start of a later line. -/
theorem advanceBy_joinedLines {lines : List (List Char)}
    (free : ∀ line ∈ lines, ∀ c ∈ line, c ≠ '\n') {position : Position}
    (starts : position.column = 1) :
    position.advanceBy (joinedLines lines) =
      ⟨position.line + lines.length, 1, position.offset + byteLength (joinedLines lines)⟩ := by
  induction lines generalizing position with
  | nil =>
      obtain ⟨line, column, offset⟩ := position
      obtain rfl : column = 1 := starts
      rfl
  | cons line lines inductionHypothesis =>
      obtain ⟨lineFree, othersFree⟩ := List.forall_mem_cons.1 free
      have size : '\n'.utf8Size = 1 := rfl
      have stepped : position.advanceBy (line ++ ['\n']) =
          ⟨position.line + 1, 1, position.offset + (byteLength line + 1)⟩ := by
        rw [Position.advanceBy_append, Position.advanceBy_of_no_newline position lineFree]
        rfl
      have shape : joinedLines (line :: lines) = line ++ ['\n'] ++ joinedLines lines := by
        simp [joinedLines]
      rw [shape, Position.advanceBy_append, stepped, inductionHypothesis othersFree rfl,
        byteLength_append, byteLength_append, Position.mk.injEq]
      simp [size]
      omega

/-- The place of the cut: its line is one more than the lines before it. -/
theorem LineCut.position_eq {source : String} {before following : List (List Char)}
    {front back ending : List Char} (cut : LineCut source before front back ending following) :
    Position.ofOffset source (byteLength (joinedLines before ++ front)) =
      ⟨before.length + 1, byteLength front + 1, byteLength (joinedLines before ++ front)⟩ := by
  have started : Position.start.column = 1 := rfl
  rw [Position.ofOffset, cut.toList_eq, Position.forward_append, Position.advanceBy_append,
    advanceBy_joinedLines cut.before_free started,
    Position.advanceBy_of_no_newline _ cut.front_free, byteLength_append, Position.mk.injEq]
  simp [Position.start]
  omega

/-! ## What is shown -/

/-- Tabs are shown as wide as they count. -/
theorem length_showTabs (text : List Char) : (showTabs text).length = shownWidth text := by
  induction text with
  | nil => rfl
  | cons c text inductionHypothesis =>
      have wide : shownWidth (c :: text) =
          (if c = '\t' then tabWidth else 1) + shownWidth text := rfl
      rw [showTabs, List.flatMap_cons, List.length_append, ← showTabs, inductionHypothesis, wide]
      split <;> simp

/-- Showing tabs brings in no newline. -/
theorem showTabs_free {line : List Char} (free : ∀ c ∈ line, c ≠ '\n') :
    ∀ c ∈ showTabs line, c ≠ '\n' := by
  intro c member
  obtain ⟨original, inLine, shown⟩ := List.mem_flatMap.1 member
  split at shown
  · rw [List.eq_of_mem_replicate shown]
    decide
  · rw [List.mem_singleton.1 shown]
    exact free original inLine

/-- A text is padded with blanks in front of it. -/
theorem toList_padLeft (width : Nat) (text : String) :
    (Text.padLeft width text).toList =
      List.replicate (width - text.length) ' ' ++ text.toList := by
  have blank : " ".toList = [' '] := rfl
  rw [Text.padLeft, String.toList_append, Text.toList_repeated blank]

/-- A line that is shown with its number has no newline. -/
theorem shownLine_free (number : Nat) {line : List Char} (free : ∀ c ∈ line, c ≠ '\n') :
    ∀ c ∈ shownLine number line, c ≠ '\n' := by
  rw [shownLine, toList_padLeft, List.forall_mem_append, List.forall_mem_append,
    List.forall_mem_append]
  refine ⟨⟨?_, ?_⟩, by simp, showTabs_free free⟩
  · intro c member
    rw [List.eq_of_mem_replicate member]
    decide
  · rintro c member rfl
    rw [Nat.toString_eq_ofList_toDigits, String.toList_ofList] at member
    exact absurd (Nat.isDigit_of_mem_toDigits (by decide) (by decide) member) (by decide)

/-- The lines above the one that is shown have no newline. -/
theorem shownAbove_free (source : String) (index : Nat) :
    ∀ line ∈ shownAbove source index, ∀ c ∈ line, c ≠ '\n' := by
  cases index with
  | zero => exact List.forall_mem_nil _
  | succ index => exact List.forall_mem_singleton.2 (shownLine_free _ (lineAt_free source index))

/-- An underline has no newline. -/
theorem underline_free (indent size : Nat) : ∀ c ∈ underline indent size, c ≠ '\n' := by
  rw [underline, List.forall_mem_append]
  constructor
  all_goals
    intro c member
    rw [List.eq_of_mem_replicate member]
    decide

/-- A numbered line is shown and then ended. -/
theorem toList_numberedLine (number : Nat) (line : List Char) :
    (numberedLine number line).toList = shownLine number line ++ ['\n'] := by
  simp [numberedLine, shownLine]

/-- An underline is indented by the width of what stands in front of the marked part. -/
theorem underlineIndent_append (front back : List Char) :
    underlineIndent (front ++ back) (byteLength front + 1) = shownWidth front := by
  rw [underlineIndent, Nat.add_sub_cancel, cutAtByte?_append]

namespace LineCut

variable {source : String} {before following : List (List Char)} {front back ending : List Char}

/-- The snippet of the cut: the lines that are shown, and an underline. -/
theorem snippet_eq (cut : LineCut source before front back ending following) (size : Nat) :
    ∃ text, snippet? source
        (Position.ofOffset source (byteLength (joinedLines before ++ front))) size = some text ∧
      text.toList = joinedLines (shownAbove source before.length ++
        [shownLine (before.length + 1) (front ++ back)]) ++
          underline (shownWidth front + 6) size := by
  have blank : " ".toList = [' '] := rfl
  have mark : "^".toList = ['^'] := rfl
  rw [cut.position_eq, snippet?, cut.context_eq, Option.map_some]
  refine ⟨_, rfl, ?_⟩
  dsimp only
  rw [underlineIndent_append, String.toList_append, String.toList_append, String.toList_append,
    Text.toList_repeated blank, Text.toList_repeated mark, toList_numberedLine, List.append_assoc,
    joinedLines, List.flatMap_append, List.flatMap_singleton, underline]
  congr 2
  rcases List.eq_nil_or_concat before with rfl | ⟨earlier, last, rfl⟩
  · rfl
  · have isLast : lineAt source earlier.length = Text.dropTrailingReturn last := by
      rw [lineAt, cut.pieces]
      simp
    rw [List.concat_eq_append, List.getLast?_concat, Option.map_some, toList_numberedLine,
      List.length_append, List.length_singleton, Nat.add_sub_cancel, shownAbove, isLast,
      List.flatMap_singleton]

/-- The snippet of the cut, line by line. -/
theorem snippetLines_eq (cut : LineCut source before front back ending following) (size : Nat) :
    ∃ text, snippet? source
        (Position.ofOffset source (byteLength (joinedLines before ++ front))) size = some text ∧
      Text.splitWhere (· = '\n') text.toList = shownAbove source before.length ++
        [shownLine (before.length + 1) (front ++ back), underline (shownWidth front + 6) size] := by
  obtain ⟨text, shown, whole⟩ := cut.snippet_eq size
  refine ⟨text, shown, ?_⟩
  rw [whole, splitWhere_joinedLines _ (underline_free _ size), List.append_assoc,
    List.singleton_append]
  rw [List.forall_mem_append, List.forall_mem_singleton, ← cut.lineAt_eq]
  exact ⟨shownAbove_free source before.length, shownLine_free _ (lineAt_free source before.length)⟩

end LineCut

/-! ## Where the underline starts -/

/-- The number of a line takes four characters, or as many as it has digits. -/
theorem length_shownLine (number : Nat) (line : List Char) :
    (shownLine number line).length = max 4 (toString number).length + 2 + shownWidth line := by
  rw [shownLine, toList_padLeft, List.length_append, List.length_append, List.length_append,
    List.length_replicate, String.length_toList, length_showTabs]
  have separator : ": ".toList.length = 2 := rfl
  omega

/-- The numbers of at most four digits are those up to 9999. -/
theorem length_toString_le_four_iff (number : Nat) :
    (toString number).length ≤ 4 ↔ number ≤ 9999 := by
  rw [Nat.toString_eq_repr, Nat.length_repr_le_iff (by decide)]
  omega

/--
The snippet of an offset that falls on a line shows the line before it, if there is one, the line
itself behind its number, and an underline of the given size. The underline never starts to the
right of the place, and it starts right under it exactly if the number of the line is at most 9999.
-/
theorem underline_aligned_iff {source : String} {offset index : Nat} {front : List Char}
    (falls : FallsOn source offset index front) (size : Nat) :
    (Position.ofOffset source offset).line = index + 1 ∧
    ∃ text indent, snippet? source (Position.ofOffset source offset) size = some text ∧
      Text.splitWhere (· = '\n') text.toList = shownAbove source index ++
        [shownLine (index + 1) (lineAt source index), underline indent size] ∧
      shownLine (index + 1) front <+: shownLine (index + 1) (lineAt source index) ∧
      indent ≤ (shownLine (index + 1) front).length ∧
      (indent = (shownLine (index + 1) front).length ↔ index + 1 ≤ 9999) := by
  obtain ⟨before, back, ending, following, cut, rfl, rfl⟩ := falls.exists_lineCut
  obtain ⟨text, shown, lines⟩ := cut.snippetLines_eq size
  have digits := length_toString_le_four_iff (before.length + 1)
  rw [cut.lineAt_eq, length_shownLine]
  have numbered := congrArg Position.line cut.position_eq
  refine ⟨numbered, text, shownWidth front + 6, shown, lines, ?_, ?_, ?_⟩
  · exact ⟨showTabs back, by simp [shownLine, showTabs]⟩
  · omega
  · omega

/-- A source of two lines with a tab, a wide character and a carriage return. -/
def tabbedSource : String := "model a\n\tkëy id\r\n"

/-- The underline of the last word starts under it, behind the tab and the wide character. -/
theorem tabbedSource_aligned :
    FallsOn tabbedSource 14 1 "\tkëy ".toList ∧
    ∃ text, snippet? tabbedSource (Position.ofOffset tabbedSource 14) 2 = some text ∧
      Text.splitWhere (· = '\n') text.toList =
        ["   1: model a".toList, "   2:     këy id".toList, "              ^^".toList] := by
  have falls : FallsOn tabbedSource 14 1 "\tkëy ".toList := by
    constructor <;> decide +kernel
  obtain ⟨-, text, indent, shown, lines, -, -, aligned⟩ := underline_aligned_iff falls 2
  refine ⟨falls, text, shown, ?_⟩
  rw [lines, aligned.2 (by decide)]
  decide +kernel

/-- A source with a number of empty lines before its last one. -/
def tallSource (count : Nat) : String :=
  String.ofList (List.replicate count '\n' ++ ['x'])

/-- A tall source has as many empty lines as it says, and one with a letter. -/
theorem piecesOf_tallSource (count : Nat) :
    piecesOf (tallSource count) = List.replicate count [] ++ [['x']] := by
  have joined : List.replicate count '\n' = joinedLines (List.replicate count []) := by
    rw [joinedLines, List.flatMap_replicate]
    simp
  rw [piecesOf, tallSource, String.toList_ofList, joined, splitWhere_joinedLines]
  · intro line member
    rw [List.eq_of_mem_replicate member]
    exact List.forall_mem_nil _
  · simp

/-- The last line of such a source, cut before its only character. -/
theorem lineCut_tallSource (count : Nat) :
    LineCut (tallSource count) (List.replicate count []) [] ['x'] [] [] :=
  ⟨piecesOf_tallSource count, rfl⟩

/-- Empty lines have one byte each. -/
theorem byteLength_emptyLines (count : Nat) :
    byteLength (joinedLines (List.replicate count [])) = count := by
  induction count with
  | zero => rfl
  | succ count inductionHypothesis =>
      have size : byteLength ([] ++ ['\n']) = 1 := rfl
      rw [List.replicate_succ, joinedLines, List.flatMap_cons, byteLength_append, ← joinedLines,
        inductionHypothesis, size, Nat.add_comm]

/-- The underline of the last character of a source of 10000 lines starts one too far left. -/
theorem tallSource_misaligned :
    FallsOn (tallSource 9999) 9999 9999 [] ∧
    (Position.ofOffset (tallSource 9999) 9999).line = 10000 ∧
    lineAt (tallSource 9999) 9999 = ['x'] ∧
    ∃ text, snippet? (tallSource 9999) (Position.ofOffset (tallSource 9999) 9999) 1 = some text ∧
      (Text.splitWhere (· = '\n') text.toList).getLast? = some (underline 6 1) ∧
      underline 6 1 ≠ underline (shownLine 10000 []).length 1 := by
  have cut := lineCut_tallSource 9999
  have line := cut.lineAt_eq
  have position := congrArg Position.line cut.position_eq
  obtain ⟨text, shown, lines⟩ := cut.snippetLines_eq 1
  rw [List.append_nil, byteLength_emptyLines] at position shown
  rw [List.length_replicate] at position line
  have falls : FallsOn (tallSource 9999) 9999 9999 [] := by
    constructor
    · rw [piecesOf_tallSource, List.length_append, List.length_replicate]
      decide
    · exact List.nil_prefix
    · rw [piecesOf_tallSource, List.take_left' List.length_replicate, byteLength_emptyLines]
      rfl
  refine ⟨falls, position, line, text, shown, ?_, by decide +kernel⟩
  rw [lines, List.getLast?_append]
  rfl

end Schemata
