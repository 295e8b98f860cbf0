import Schemata.Proofs.Source.Tiling

/-!
# Positions are counted alike

A position can be counted in three ways: from the bytes before it, by `Position.ofOffset` for an
offset, or during a scan, where only a newline token begins another line. The first two agree at
every offset, because no character but the newline has the newline's byte in its encoding. The third
one agrees at everything that a scan finds, because no other token, gap or comment has a newline.
-/

namespace Schemata

/-! ## Bytes -/

/-- The byte of a newline. -/
def newlineByte : UInt8 := 10

/--
The position behind some bytes: its line is one more than the newlines among them, its column one
more than the bytes behind the last newline.
-/
def Position.ofBytes (bytes : List UInt8) : Position :=
  ⟨bytes.count newlineByte + 1, (bytes.reverse.takeWhile (· ≠ newlineByte)).length + 1,
    bytes.length⟩

/-- The bytes of a source. -/
def sourceBytes (source : String) : List UInt8 :=
  source.toByteArray.data.toList

/-- The bytes of a source are those of its characters, in order. -/
theorem sourceBytes_eq (source : String) :
    sourceBytes source = source.toList.flatMap String.utf8EncodeChar := by
  have bytes : source.toByteArray = (source.toList.flatMap String.utf8EncodeChar).toByteArray := by
    conv_lhs => rw [← String.ofList_toList (s := source), String.toByteArray_ofList]
    rfl
  rw [sourceBytes, bytes]
  simp

/-- Only a newline has its byte in its encoding: all bytes of longer encodings are large. -/
theorem newlineByte_not_mem {c : Char} (other : c ≠ '\n') :
    newlineByte ∉ String.utf8EncodeChar c := by
  have notTen : c.val.toNat ≠ 10 := by
    intro isTen
    apply other
    exact Char.ext (UInt32.toNat_inj.1 isTen)
  have large : ∀ byte, byte % 256 ≠ 10 → newlineByte ≠ UInt8.ofNat byte := by
    intro byte differs same
    apply differs
    have := congrArg UInt8.toNat same
    simpa [newlineByte] using this.symm
  unfold String.utf8EncodeChar
  generalize c.val.toNat = code at notTen
  dsimp only
  split_ifs with one two three <;>
    simp only [List.mem_cons, List.not_mem_nil, or_false, not_or]
  · exact large _ (by omega)
  · exact ⟨large _ (by omega), large _ (by omega)⟩
  · exact ⟨large _ (by omega), large _ (by omega), large _ (by omega)⟩
  · exact ⟨large _ (by omega), large _ (by omega), large _ (by omega), large _ (by omega)⟩

namespace Position

variable {passed bytes : List UInt8}

/-- Bytes of the same line move a position along it. -/
theorem ofBytes_append (passed : List UInt8) (sameLine : newlineByte ∉ bytes) :
    ofBytes (passed ++ bytes) = ⟨(ofBytes passed).line, (ofBytes passed).column + bytes.length,
      (ofBytes passed).offset + bytes.length⟩ := by
  have others : ∀ byte ∈ bytes.reverse, (byte ≠ newlineByte) = true := by
    intro byte member
    simp only [eq_iff_iff, iff_true]
    rintro rfl
    exact sameLine (List.mem_reverse.1 member)
  have taken : (passed ++ bytes).reverse.takeWhile (· ≠ newlineByte) =
      bytes.reverse ++ passed.reverse.takeWhile (· ≠ newlineByte) := by
    rw [List.reverse_append, List.takeWhile_append_of_pos]
    simpa using others
  rw [ofBytes, taken]
  simp [ofBytes, List.count_eq_zero_of_not_mem sameLine]
  omega

/-- A newline moves a position to the start of the next line. -/
theorem ofBytes_newline (passed : List UInt8) :
    ofBytes (passed ++ [newlineByte]) =
      ⟨(ofBytes passed).line + 1, 1, (ofBytes passed).offset + 1⟩ := by
  simp [ofBytes]

/-- A position behind bytes advances by the bytes of a character. -/
theorem advance_ofBytes (passed : List UInt8) (c : Char) :
    (ofBytes passed).advance c = ofBytes (passed ++ String.utf8EncodeChar c) := by
  by_cases isNewline : c = '\n'
  · subst isNewline
    exact (ofBytes_newline passed).symm
  · rw [ofBytes_append passed (newlineByte_not_mem isNewline), advance, if_neg isNewline,
      String.length_utf8EncodeChar]

/-- Moving forward through a text counts the bytes of it. -/
theorem forward_ofBytes (passed : List UInt8) (text : List Char) (count : Nat) :
    (ofBytes passed).forward text count =
      ofBytes (passed ++ (text.flatMap String.utf8EncodeChar).take count) := by
  induction text generalizing passed count with
  | nil => simp [forward]
  | cons c text inductionHypothesis =>
      rw [forward, List.flatMap_cons, List.take_append, String.length_utf8EncodeChar]
      by_cases inside : count < c.utf8Size
      · -- Inside a character there is no newline: the newline has one byte.
        have sameLine : newlineByte ∉ (String.utf8EncodeChar c).take count := by
          by_cases isNewline : c = '\n'
          · subst isNewline
            have none : count = 0 := by
              have := (show '\n'.utf8Size = 1 from rfl)
              omega
            simp [none]
          · exact fun member => newlineByte_not_mem isNewline (List.mem_of_mem_take member)
        have length : ((String.utf8EncodeChar c).take count).length = count := by
          rw [List.length_take, String.length_utf8EncodeChar]
          omega
        rw [if_pos inside, Nat.sub_eq_zero_of_le (Nat.le_of_lt inside), List.take_zero,
          List.append_nil, ofBytes_append passed sameLine, length]
      · have whole : (String.utf8EncodeChar c).take count = String.utf8EncodeChar c := by
          apply List.take_of_length_le
          rw [String.length_utf8EncodeChar]
          omega
        rw [if_neg inside, advance_ofBytes, inductionHypothesis, List.append_assoc, whole]

/-- The position of an offset is counted from the bytes before it, at every offset. -/
theorem ofOffset_eq_ofBytes (source : String) (offset : Nat) :
    ofOffset source offset = ofBytes ((sourceBytes source).take offset) := by
  have counted := forward_ofBytes [] source.toList offset
  rw [List.nil_append, ← sourceBytes_eq] at counted
  exact counted

end Position

/-! ## Lines of a scan -/

/-- A line of a source: its number, and the offset at which it starts. -/
structure LineMark where
  line : Nat
  start : Nat

namespace LineMark

/-- The first line of every source. -/
def first : LineMark := ⟨1, 0⟩

/-- The position of an offset on a line. -/
def position (mark : LineMark) (offset : Nat) : Position :=
  ⟨mark.line, offset - mark.start + 1, offset⟩

/-- The line behind what a scan found: only a newline token begins another one. -/
def after (mark : LineMark) : Scan → LineMark
  | .token token => if token.lexeme = .newline then ⟨mark.line + 1, token.stop⟩ else mark
  | _ => mark

/-- The positions of what a scan finds, counted by lines from the offsets alone. -/
def positions : LineMark → List Scan → List Position
  | _, [] => []
  | mark, scan :: scans =>
    mark.position scan.position.offset :: positions (mark.after scan) scans

/-- A position is on a line. -/
structure Marks (mark : LineMark) (position : Position) : Prop where
  bound : mark.start ≤ position.offset
  eq : position = mark.position position.offset

variable {mark : LineMark} {position : Position}

/-- Behind a text without newlines, a position is on the same line. -/
theorem Marks.advanceBy (marks : mark.Marks position) {text : List Char}
    (sameLine : ∀ c ∈ text, c ≠ '\n') : mark.Marks (position.advanceBy text) := by
  have bound := marks.bound
  have line : position.line = mark.line := congrArg Position.line marks.eq
  have column : position.column = position.offset - mark.start + 1 :=
    congrArg Position.column marks.eq
  rw [Position.advanceBy_of_no_newline position sameLine]
  constructor
  · dsimp only
    omega
  · rw [LineMark.position, line, column, Position.mk.injEq]
    dsimp only
    omega

/-- Behind a newline, a position is at the start of the next line. -/
theorem Marks.newline (marks : mark.Marks position) :
    LineMark.Marks ⟨mark.line + 1, position.offset + 1⟩ (position.advance '\n') := by
  have line : position.line = mark.line := congrArg Position.line marks.eq
  have size : '\n'.utf8Size = 1 := rfl
  constructor
  · exact Nat.le_refl _
  · simp [LineMark.position, Position.advance, line, size]

/-- Everything that a scan finds is where its newline tokens say. -/
theorem map_position_run (steps : Nat) (text : List Char) (marks : mark.Marks position) :
    (Scanner.run steps ⟨position, text, false⟩).map Scan.position =
      mark.positions (Scanner.run steps ⟨position, text, false⟩) := by
  induction steps generalizing mark position text with
  | zero => rfl
  | succ steps inductionHypothesis =>
      obtain ⟨scan, after, stepped, advances⟩ := exists_advances position text
      rw [run_succ steps stepped, List.map_cons, positions]
      cases advances with
      | stop between =>
          rw [run_finished]
          exact congrArg (fun place => [place]) (marks.advanceBy between.ne_newline).eq
      | @unreadable gap unread rest whole between refused =>
          rw [run_finished]
          exact congrArg (fun place => [place]) (marks.advanceBy between.ne_newline).eq
      | @token gap spelled rest lexeme whole between longest =>
          have behindGap := marks.advanceBy between.ne_newline
          refine congrArg₂ List.cons behindGap.eq (inductionHypothesis rest ?_)
          rw [Position.advanceBy_append, LineMark.after]
          split
          · next isNewline =>
            obtain rfl : lexeme = .newline := isNewline
            obtain rfl := longest.rule.fixed_eq rfl
            exact behindGap.newline
          · next visible => exact behindGap.advanceBy (longest.rule.ne_newline visible)

end LineMark

namespace IsPlace

variable {source : String} {position other : Position}

/-- The places of a source are ordered as their offsets are. -/
theorem before_iff (place : IsPlace source position) (otherPlace : IsPlace source other) :
    position.before other = true ↔ position.offset < other.offset := by
  constructor
  · intro before
    by_contra notSmaller
    rcases Nat.lt_or_eq_of_le (Nat.le_of_not_lt notSmaller) with smaller | same
    · have behind := otherPlace.before_of_offset_lt place smaller
      simp only [Position.before, Bool.or_eq_true, Bool.and_eq_true, decide_eq_true_eq,
        beq_iff_eq] at before behind
      omega
    · rw [place.eq_ofOffset, otherPlace.eq_ofOffset, same] at before
      simp [Position.before] at before
  · exact place.before_of_offset_lt otherPlace

end IsPlace

/--
Everything that a scan finds (tokens, the end, or a text that no rule reads) is where counting by
its newline tokens says. That is the position of its offset, counted from the bytes before it, and
these positions are ordered as the offsets are.
-/
theorem scans_positioned (source : String) (steps : Nat) :
    let scans := (Scanner.ofSource source).run steps
    scans.map Scan.position = LineMark.first.positions scans ∧
      (∀ scan ∈ scans, scan.position = Position.ofOffset source scan.position.offset ∧
        scan.position = Position.ofBytes ((sourceBytes source).take scan.position.offset)) ∧
      ∀ one ∈ scans, ∀ other ∈ scans,
        (one.position.before other.position = true ↔
          one.position.offset < other.position.offset) := by
  have places : ∀ scan ∈ (Scanner.ofSource source).run steps, IsPlace source scan.position :=
    isPlace_of_mem_run steps (List.nil_append _).symm
  have started : LineMark.first.Marks Position.start := ⟨Nat.le_refl 0, rfl⟩
  refine ⟨LineMark.map_position_run steps source.toList started, ?_, ?_⟩
  · intro scan member
    have eqOffset := (places scan member).eq_ofOffset
    exact ⟨eqOffset, eqOffset.trans (Position.ofOffset_eq_ofBytes source _)⟩
  · intro one oneMember other otherMember
    exact (places one oneMember).before_iff (places other otherMember)

/-- A source with wide characters in a string and a comment, and a text that no rule reads. -/
def wideSource : String := "a \"é\\n\" # é\n\tb ☃"

/--
The tokens of a source with wide characters, and the positions that their bytes are counted to.
-/
theorem wideSource_positioned :
    ((Scanner.ofSource wideSource).run 9).map Scan.position =
        [⟨1, 1, 0⟩, ⟨1, 3, 2⟩, ⟨1, 14, 13⟩, ⟨2, 2, 15⟩, ⟨2, 4, 17⟩] ∧
      Position.ofOffset wideSource 17 = ⟨2, 4, 17⟩ ∧
      Position.ofBytes ((sourceBytes wideSource).take 17) = ⟨2, 4, 17⟩ ∧
      Position.before ⟨1, 14, 13⟩ ⟨2, 4, 17⟩ = true := by
  have found : ((Scanner.ofSource wideSource).run 9).map Scan.position =
      [⟨1, 1, 0⟩, ⟨1, 3, 2⟩, ⟨1, 14, 13⟩, ⟨2, 2, 15⟩, ⟨2, 4, 17⟩] := by
    unfold wideSource
    rw [Scanner.ofSource, String.toList_ofList]
    decide +kernel
  obtain ⟨-, counted, ordered⟩ := scans_positioned wideSource 9
  have member : ∀ position ∈ ((Scanner.ofSource wideSource).run 9).map Scan.position,
      ∃ scan ∈ (Scanner.ofSource wideSource).run 9, scan.position = position :=
    fun _ => List.mem_map.1
  rw [found] at member
  obtain ⟨newline, newlineMember, newlinePosition⟩ := member ⟨1, 14, 13⟩ (by simp)
  obtain ⟨unread, unreadMember, unreadPosition⟩ := member ⟨2, 4, 17⟩ (by simp)
  have unreadCounted := counted unread unreadMember
  have both := ordered newline newlineMember unread unreadMember
  rw [unreadPosition] at unreadCounted both
  rw [newlinePosition] at both
  exact ⟨found, unreadCounted.1.symm, unreadCounted.2.symm, both.2 (by decide)⟩

end Schemata
