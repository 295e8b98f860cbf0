import Mathlib.Data.List.Lex

/-!
# The order of bytes

Texts are compared character by character, and so are their bytes in UTF-8: of two characters, the
one with the smaller code point has the smaller bytes, and no character's bytes start with those of
another. So texts that stand in order have their bytes in order too (`bytesBefore_of_lt`).
-/

namespace Schemata.Text

/-- The bytes of a text, as numbers. -/
def bytes (text : String) : List Nat :=
  text.toByteArray.data.toList.map UInt8.toNat

/-- The bytes of a text come before those of another. -/
def BytesBefore (first second : String) : Prop :=
  List.Lex (fun byte other => byte < other) (bytes first) (bytes second)

/-- A code point in a first byte, which is marked, and some bytes that count up to 64 each. -/
def markedBytes (mark : Nat) : Nat → Nat → List Nat
  | 0, code => [code + mark]
  | count + 1, code => markedBytes mark count (code / 64) ++ [code % 64 + 128]

/-- The bytes of a code point. -/
def codePointBytes (code : Nat) : List Nat :=
  if code < 128 then markedBytes 0 0 code
  else if code < 2048 then markedBytes 192 1 code
  else if code < 65536 then markedBytes 224 2 code
  else markedBytes 240 3 code

/-- A character is encoded in the bytes of its code point. -/
theorem map_toNat_utf8EncodeChar (c : Char) :
    (String.utf8EncodeChar c).map UInt8.toNat = codePointBytes c.toNat := by
  have valid : c.toNat.isValidChar := c.valid
  have same : c.val.toNat = c.toNat := rfl
  unfold Nat.isValidChar at valid
  unfold String.utf8EncodeChar codePointBytes
  rw [same]
  generalize c.toNat = code at valid
  dsimp only
  split_ifs <;> simp [markedBytes] <;> omega

/-- The bytes of a text are those of its code points, in order. -/
theorem bytes_eq (text : String) :
    bytes text = text.toList.flatMap fun c => codePointBytes c.toNat := by
  have encoded : text.toByteArray = text.toList.utf8Encode := by
    rw [← String.toByteArray_ofList, String.ofList_toList]
  rw [bytes, encoded, List.utf8Encode, List.toList_data_toByteArray, List.map_flatMap]
  simp only [map_toNat_utf8EncodeChar]

/-- Of code points with as many bytes, the smaller one has smaller bytes. -/
theorem lex_markedBytes (mark count : Nat) {code other : Nat} (smaller : code < other)
    (rest otherRest : List Nat) :
    List.Lex (fun byte other => byte < other) (markedBytes mark count code ++ rest)
      (markedBytes mark count other ++ otherRest) := by
  induction count generalizing code other rest otherRest with
  | zero => exact .rel (Nat.add_lt_add_right smaller mark)
  | succ count inductionHypothesis =>
      rw [markedBytes, markedBytes, List.append_assoc, List.append_assoc]
      rcases Nat.lt_or_ge (code / 64) (other / 64) with earlier | notEarlier
      · exact inductionHypothesis earlier _ _
      · -- All bytes but the last one are the same.
        have same : code / 64 = other / 64 := by omega
        rw [same]
        exact .append_left _ (.rel (by omega)) _

/-- A smaller code point has smaller bytes, whatever comes behind. -/
theorem lex_codePointBytes {code other : Nat} (smaller : code < other) (rest otherRest : List Nat) :
    List.Lex (fun byte other => byte < other) (codePointBytes code ++ rest)
      (codePointBytes other ++ otherRest) := by
  unfold codePointBytes
  split_ifs
  -- Code points of one length are compared byte by byte, others by their first bytes.
  any_goals exact lex_markedBytes _ _ smaller _ _
  all_goals exact .rel (by omega)

/-- Every code point has bytes. -/
theorem codePointBytes_ne_nil (code : Nat) : codePointBytes code ≠ [] := by
  unfold codePointBytes
  split_ifs <;> simp [markedBytes]

/-- Texts in order have their bytes in order. -/
theorem bytesBefore_of_lt {first second : String} (before : first < second) :
    BytesBefore first second := by
  have characters : List.Lex (fun c d : Char => c < d) first.toList second.toList :=
    String.lt_iff.1 before
  unfold BytesBefore
  rw [bytes_eq, bytes_eq]
  generalize first.toList = characters, second.toList = others at characters
  induction characters with
  | @nil c rest =>
      obtain ⟨byte, more, shape⟩ := List.exists_cons_of_ne_nil (codePointBytes_ne_nil c.toNat)
      rw [List.flatMap_cons, shape]
      exact .nil
  | cons _ inductionHypothesis =>
      rw [List.flatMap_cons, List.flatMap_cons]
      exact .append_left _ inductionHypothesis _
  | rel smaller =>
      rw [List.flatMap_cons, List.flatMap_cons]
      exact lex_codePointBytes smaller _ _

end Schemata.Text
