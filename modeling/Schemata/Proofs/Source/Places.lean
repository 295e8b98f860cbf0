import Mathlib.Data.List.Basic
import Schemata.Source.Snippet

/-!
# Places in a source

A place of a source is where one arrives by passing over a front part of it. So its offset falls
between two characters, counting the lines up to that offset gives the place back, the line around
it can be shown, and of two places the one with the smaller offset comes first. `StandsAt` says
which text begins at a place.
-/

namespace Schemata

/-! ## Bytes -/

@[simp]
theorem byteLength_nil : byteLength [] = 0 := rfl

@[simp]
theorem byteLength_cons (c : Char) (text : List Char) :
    byteLength (c :: text) = c.utf8Size + byteLength text := rfl

/-- The bytes of two texts add up. -/
theorem byteLength_append (front back : List Char) :
    byteLength (front ++ back) = byteLength front + byteLength back := by
  induction front with
  | nil => simp
  | cons c front inductionHypothesis =>
      rw [List.cons_append, byteLength_cons, byteLength_cons, inductionHypothesis, Nat.add_assoc]

/-- Bytes are counted as the encoding of a text has them. -/
theorem size_utf8Encode (text : List Char) : text.utf8Encode.size = byteLength text := by
  induction text with
  | nil => rfl
  | cons c text inductionHypothesis =>
      rw [List.utf8Encode_cons, ByteArray.size_append, List.utf8Encode_singleton,
        List.size_toByteArray, String.length_utf8EncodeChar, inductionHypothesis, byteLength_cons]

/-- Behind an encoded text, bytes are valid exactly if the whole is. -/
theorem isValidUTF8_utf8Encode_append_iff (text : List Char) (bytes : ByteArray) :
    (text.utf8Encode ++ bytes).IsValidUTF8 ↔ bytes.IsValidUTF8 := by
  induction text with
  | nil => rw [List.utf8Encode_nil, ByteArray.empty_append]
  | cons c text inductionHypothesis =>
      rw [List.utf8Encode_cons, ByteArray.append_assoc,
        ByteArray.isValidUTF8_utf8Encode_singleton_append_iff, inductionHypothesis]

/-- A text whose bytes begin with those of another text begins with that text. -/
theorem exists_append_of_utf8Encode {text front : List Char} {bytes : ByteArray}
    (encoded : text.utf8Encode = front.utf8Encode ++ bytes) : ∃ back, text = front ++ back := by
  have valid : bytes.IsValidUTF8 := by
    rw [← isValidUTF8_utf8Encode_append_iff front, ← encoded]
    exact ByteArray.isValidUTF8_utf8Encode
  obtain ⟨back, rfl⟩ := valid
  refine ⟨back, ?_⟩
  rw [← List.utf8Encode_append, ← String.toByteArray_ofList, ← String.toByteArray_ofList] at encoded
  exact String.ofList_inj.1 (String.toByteArray_inj.1 encoded)

/-- The bytes of the characters of a text are those of the text. -/
theorem byteLength_toList (text : String) : byteLength text.toList = text.utf8ByteSize := by
  rw [← size_utf8Encode, ← String.toByteArray_ofList, String.ofList_toList, String.size_toByteArray]

/-! ## Cutting a text -/

/-- A text can be cut behind each of its front parts. -/
theorem cutAtByte?_append (front back : List Char) :
    cutAtByte? (front ++ back) (byteLength front) = some (front, back) := by
  induction front with
  | nil => cases back <;> simp [cutAtByte?]
  | cons c front inductionHypothesis =>
      have positive := c.utf8Size_pos
      have notFirst : ¬ byteLength (c :: front) = 0 := by
        rw [byteLength_cons]
        omega
      have notInside : ¬ byteLength (c :: front) < c.utf8Size := by
        rw [byteLength_cons]
        omega
      rw [List.cons_append, cutAtByte?, if_neg notFirst, if_neg notInside, byteLength_cons,
        Nat.add_sub_cancel_left, inductionHypothesis]
      rfl

/-- Of two ways to cut a text, those behind equally many bytes leave the same rest. -/
theorem eq_of_append_eq {front back otherFront otherBack : List Char}
    (same : front ++ back = otherFront ++ otherBack)
    (sizes : byteLength front = byteLength otherFront) : back = otherBack := by
  have cut := cutAtByte?_append front back
  rw [same, sizes, cutAtByte?_append] at cut
  exact (Prod.ext_iff.1 (Option.some.inj cut)).2.symm

/-! ## Passing over a text -/

namespace Position

/-- A position advances by the bytes of a character. -/
theorem offset_advance (position : Position) (c : Char) :
    (position.advance c).offset = position.offset + c.utf8Size := by
  unfold advance
  split <;> rfl

/-- A position advances by the bytes of a text. -/
theorem offset_advanceBy (position : Position) (text : List Char) :
    (position.advanceBy text).offset = position.offset + byteLength text := by
  induction text generalizing position with
  | nil => rfl
  | cons c text inductionHypothesis =>
      rw [advanceBy_cons, inductionHypothesis, offset_advance, byteLength_cons, Nat.add_assoc]

@[simp]
theorem forward_zero (position : Position) (text : List Char) :
    position.forward text 0 = position := by
  cases text with
  | nil => rfl
  | cons c text => simp [forward, c.utf8Size_pos]

/-- Counting through a front part arrives behind it. -/
theorem forward_append (position : Position) (front back : List Char) :
    position.forward (front ++ back) (byteLength front) = position.advanceBy front := by
  induction front generalizing position with
  | nil => exact forward_zero position back
  | cons c front inductionHypothesis =>
      have enough : ¬ byteLength (c :: front) < c.utf8Size := by
        rw [byteLength_cons]
        omega
      rw [List.cons_append, forward, if_neg enough, byteLength_cons, Nat.add_sub_cancel_left,
        inductionHypothesis, advanceBy_cons]

/-- A text leads to a later line, or further along the line. -/
theorem advanceBy_grows (position : Position) (text : List Char) :
    position.line < (position.advanceBy text).line ∨
      position.line = (position.advanceBy text).line ∧
        position.column + byteLength text = (position.advanceBy text).column := by
  induction text generalizing position with
  | nil => exact .inr ⟨rfl, rfl⟩
  | cons c text inductionHypothesis =>
      rw [advanceBy_cons, byteLength_cons]
      have stepped : position.line < (position.advance c).line ∨
          position.line = (position.advance c).line ∧
            position.column + c.utf8Size = (position.advance c).column := by
        unfold advance
        split
        · exact .inl (Nat.lt_succ_self _)
        · exact .inr ⟨rfl, rfl⟩
      have others := inductionHypothesis (position.advance c)
      omega

/-- What comes behind a text comes later. -/
theorem before_advanceBy (position : Position) {text : List Char} (nonempty : text ≠ []) :
    position.before (position.advanceBy text) = true := by
  have positive : 0 < byteLength text := by
    cases text with
    | nil => exact absurd rfl nonempty
    | cons c text =>
        have := c.utf8Size_pos
        rw [byteLength_cons]
        omega
  have grows := position.advanceBy_grows text
  simp only [before, Bool.or_eq_true, Bool.and_eq_true, decide_eq_true_eq, beq_iff_eq]
  omega

/-- Along one line, columns and offsets grow together. -/
theorem advanceBy_of_no_newline (position : Position) {text : List Char}
    (sameLine : ∀ c ∈ text, c ≠ '\n') :
    position.advanceBy text =
      ⟨position.line, position.column + byteLength text, position.offset + byteLength text⟩ := by
  induction text generalizing position with
  | nil => rfl
  | cons c text inductionHypothesis =>
      rw [List.forall_mem_cons] at sameLine
      have stepped : position.advance c =
          ⟨position.line, position.column + c.utf8Size, position.offset + c.utf8Size⟩ :=
        if_neg sameLine.1
      rw [advanceBy_cons, stepped, inductionHypothesis _ sameLine.2, byteLength_cons,
        Nat.add_assoc, Nat.add_assoc]

/-- From the start on, the offset is the number of bytes that were passed over. -/
theorem offset_start_advanceBy (text : List Char) :
    (start.advanceBy text).offset = byteLength text := by
  rw [offset_advanceBy]
  exact Nat.zero_add _

/-- A line starts with its first column. -/
theorem column_start_advanceBy {before : List Char}
    (ended : before = [] ∨ before.getLast? = some '\n') :
    (start.advanceBy before).column = 1 := by
  rcases ended with rfl | ended
  · rfl
  · obtain ⟨lines, rfl⟩ := List.getLast?_eq_some_iff.1 ended
    rw [advanceBy_append]
    rfl

end Position

/-! ## Places -/

/-- A text stands at a position of a source: the source goes on with it there. -/
def StandsAt (source : String) (position : Position) (text : List Char) : Prop :=
  ∃ front back, source.toList = front ++ (text ++ back) ∧
    position = Position.start.advanceBy front

/-- A place of a source: some front part of the source leads to it. -/
def IsPlace (source : String) (position : Position) : Prop :=
  ∃ front back, source.toList = front ++ back ∧ position = Position.start.advanceBy front

namespace StandsAt

variable {source : String} {position : Position} {front back : List Char}

/-- Where a text stands is a place of the source. -/
theorem isPlace (stands : StandsAt source position front) : IsPlace source position := by
  obtain ⟨passed, rest, whole, rfl⟩ := stands
  exact ⟨passed, front ++ rest, whole, rfl⟩

/-- Where a text stands, every front part of it does. -/
theorem left (stands : StandsAt source position (front ++ back)) :
    StandsAt source position front := by
  obtain ⟨passed, rest, whole, rfl⟩ := stands
  exact ⟨passed, back ++ rest, by rw [whole, List.append_assoc], rfl⟩

/-- Behind a front part, the rest of the text stands. -/
theorem right (stands : StandsAt source position (front ++ back)) :
    StandsAt source (position.advanceBy front) back := by
  obtain ⟨passed, rest, whole, rfl⟩ := stands
  refine ⟨passed ++ front, rest, ?_, (Position.advanceBy_append ..).symm⟩
  rw [whole, List.append_assoc, List.append_assoc]

/-- Behind the first character of a text, the rest of it stands. -/
theorem tail {c : Char} (stands : StandsAt source position (c :: back)) :
    StandsAt source (position.advance c) back :=
  @right source position [c] back stands

/-- What stands at one place begins alike. -/
theorem head_eq {c d : Char} (stands : StandsAt source position (c :: front))
    (otherStands : StandsAt source position (d :: back)) : c = d := by
  obtain ⟨passed, rest, whole, rfl⟩ := stands
  obtain ⟨otherPassed, otherRest, otherWhole, same⟩ := otherStands
  have offsets := congrArg Position.offset same
  rw [Position.offset_advanceBy, Position.offset_advanceBy, Nat.add_left_cancel_iff] at offsets
  have rests := eq_of_append_eq (whole.symm.trans otherWhole) offsets
  exact (List.cons.inj rests).1

/-- The bytes of a source at an offset are those of the text that stands there. -/
theorem extract_eq (stands : StandsAt source position front) :
    source.toByteArray.extract position.offset (position.offset + byteLength front) =
      front.utf8Encode := by
  obtain ⟨passed, rest, whole, rfl⟩ := stands
  have offset : (Position.start.advanceBy passed).offset = passed.utf8Encode.size := by
    rw [Position.offset_start_advanceBy, size_utf8Encode]
  have bytes : source.toByteArray =
      passed.utf8Encode ++ (front.utf8Encode ++ rest.utf8Encode) := by
    rw [← List.utf8Encode_append, ← List.utf8Encode_append, ← whole, ← String.toByteArray_ofList,
      String.ofList_toList]
  rw [bytes, offset, ← size_utf8Encode, ByteArray.extract_append, Nat.sub_self,
    Nat.add_sub_cancel_left, ByteArray.extract_append_eq_left rfl,
    ByteArray.extract_eq_empty_iff.2 (by omega), ByteArray.empty_append]

end StandsAt

namespace IsPlace

variable {source : String} {position other : Position}

/-- Something stands at every place: the rest of the source. -/
theorem exists_standsAt (place : IsPlace source position) :
    ∃ text, StandsAt source position text ∧
      position.offset + byteLength text = source.utf8ByteSize := by
  obtain ⟨front, back, whole, rfl⟩ := place
  refine ⟨back, ⟨front, [], by rw [whole, List.append_nil], rfl⟩, ?_⟩
  rw [Position.offset_start_advanceBy, ← byteLength_toList, whole, byteLength_append]

/-- A place is not behind the end of the source. -/
theorem offset_le (place : IsPlace source position) : position.offset ≤ source.utf8ByteSize := by
  obtain ⟨text, -, total⟩ := place.exists_standsAt
  omega

/-- A text stands at a place exactly if its bytes do. -/
theorem standsAt_iff (place : IsPlace source position) (text : List Char) :
    StandsAt source position text ↔
      source.toByteArray.extract position.offset (position.offset + byteLength text) =
        text.utf8Encode := by
  constructor
  · exact StandsAt.extract_eq
  · intro bytes
    obtain ⟨rest, stands, total⟩ := place.exists_standsAt
    have restBytes := stands.extract_eq
    have split : rest.utf8Encode = text.utf8Encode ++
        source.toByteArray.extract (position.offset + byteLength text)
          (position.offset + byteLength rest) := by
      have fits : byteLength text ≤ byteLength rest := by
        have size := congrArg ByteArray.size bytes
        rw [ByteArray.size_extract, size_utf8Encode, String.size_toByteArray] at size
        omega
      rw [← restBytes, ← bytes, ByteArray.extract_append_extract, Nat.min_eq_left (by omega),
        Nat.max_eq_right (by omega)]
    obtain ⟨back, rfl⟩ := exists_append_of_utf8Encode split
    exact stands.left

/-- The offset of a place falls between two characters. -/
theorem isValid_offset (place : IsPlace source position) :
    (String.Pos.Raw.mk position.offset).IsValid source := by
  obtain ⟨front, back, whole, rfl⟩ := place
  rw [String.Pos.Raw.isValid_iff_exists_append]
  refine ⟨String.ofList front, String.ofList back, ?_, ?_⟩
  · rw [← String.ofList_append, ← whole, String.ofList_toList]
  · apply String.Pos.Raw.ext
    have size : (String.ofList front).utf8ByteSize = byteLength front := by
      rw [← byteLength_toList, String.toList_ofList]
    exact (Position.offset_start_advanceBy front).trans size.symm

/-- Counting lines up to the offset of a place gives the place. -/
theorem eq_ofOffset (place : IsPlace source position) :
    position = Position.ofOffset source position.offset := by
  obtain ⟨front, back, whole, rfl⟩ := place
  rw [Position.ofOffset, whole, Position.offset_start_advanceBy, Position.forward_append]

/-- Of two places of a source, the one with the smaller offset comes first. -/
theorem before_of_offset_lt (place : IsPlace source position) (otherPlace : IsPlace source other)
    (smaller : position.offset < other.offset) : position.before other = true := by
  obtain ⟨front, back, whole, rfl⟩ := place
  obtain ⟨otherFront, otherBack, otherWhole, rfl⟩ := otherPlace
  rw [Position.offset_advanceBy, Position.offset_advanceBy] at smaller
  have fronts : front <+: otherFront ∨ otherFront <+: front :=
    List.prefix_or_prefix_of_prefix ⟨back, whole.symm⟩ ⟨otherBack, otherWhole.symm⟩
  rcases fronts with ⟨more, rfl⟩ | ⟨more, rfl⟩
  · rw [Position.advanceBy_append]
    apply Position.before_advanceBy
    rintro rfl
    simp at smaller
  · rw [byteLength_append] at smaller
    omega

end IsPlace

/-! ## Lines -/

/--
A position on a line that starts at an offset: the offset is not behind it, no newline stands
between them, and the column is counted from there.
-/
structure Position.OnLine (source : String) (position : Position) (lineStart : Nat) : Prop where
  text : ∃ before line after, source.toList = before ++ (line ++ after) ∧
    byteLength before = lineStart ∧ byteLength (before ++ line) = position.offset ∧
    (before = [] ∨ before.getLast? = some '\n') ∧ ∀ c ∈ line, c ≠ '\n'
  bound : lineStart ≤ position.offset
  column : position.column = position.offset - lineStart + 1

/-- A text ends with a line: what stands behind its last newline, or the whole of it. -/
theorem exists_line (text : List Char) :
    ∃ before line, text = before ++ line ∧ (before = [] ∨ before.getLast? = some '\n') ∧
      ∀ c ∈ line, c ≠ '\n' := by
  induction text with
  | nil => exact ⟨[], [], rfl, .inl rfl, List.forall_mem_nil _⟩
  | cons c text inductionHypothesis =>
      obtain ⟨before, line, rfl, rfl | ended, sameLine⟩ := inductionHypothesis
      · by_cases isNewline : c = '\n'
        · exact ⟨[c], line, rfl, .inr (by rw [isNewline]; rfl), sameLine⟩
        · exact ⟨[], c :: line, rfl, .inl rfl, List.forall_mem_cons.2 ⟨isNewline, sameLine⟩⟩
      · refine ⟨c :: before, line, rfl, .inr ?_, sameLine⟩
        rw [List.getLast?_cons, ended, Option.getD_some]

/-- Every place of a source is on a line. -/
theorem IsPlace.exists_onLine {source : String} {position : Position}
    (place : IsPlace source position) : ∃ lineStart, position.OnLine source lineStart := by
  obtain ⟨front, after, whole, rfl⟩ := place
  obtain ⟨before, line, rfl, ended, sameLine⟩ := exists_line front
  have offset := Position.offset_start_advanceBy (before ++ line)
  have column : (Position.start.advanceBy (before ++ line)).column = 1 + byteLength line := by
    rw [Position.advanceBy_append, Position.advanceBy_of_no_newline _ sameLine]
    exact congrArg (· + byteLength line) (Position.column_start_advanceBy ended)
  refine ⟨byteLength before, ⟨before, line, after, ?_, rfl, offset.symm, ended, sameLine⟩, ?_, ?_⟩
  · rw [whole, List.append_assoc]
  · rw [offset, byteLength_append]
    omega
  · rw [offset, column, byteLength_append]
    omega

/-! ## Snippets -/

/-- The line around a place can be shown. -/
theorem IsPlace.isSome_snippet? {source : String} {position : Position}
    (place : IsPlace source position) (size : Nat) :
    (snippet? source position size).isSome = true := by
  obtain ⟨front, back, whole, rfl⟩ := place
  rw [snippet?, Option.isSome_map, LineContext.at?, Option.isSome_map, whole,
    Position.offset_start_advanceBy, cutAtByte?_append]
  rfl

end Schemata
