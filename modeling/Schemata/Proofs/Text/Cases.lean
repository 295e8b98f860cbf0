import Mathlib.Tactic.MkIffOfInductiveProp
import Schemata.Proofs.Scanning
import Schemata.Proofs.Text.Pieces

/-!
# The words of names

A name is cut into words that are not empty and consist of letters and digits. If the name is a word
of the language of schemas, these are letters and digits of ASCII, and the styles of a name are easy
to describe: small letters with underscores between the words, or a capital at the start of each. In
small letters nothing is left to cut but underscores, so that writing a name in small letters twice
is the same as once (`snakeCase_snakeCase`). Whatever a name is, no style of it has other ASCII
characters than letters, digits and underscores (`nameLike_snakeCase`, `nameLike_upperCamelCase`).
-/

namespace Schemata.Text

/-! ## Characters -/

/-- What holds of the first 128 characters one by one holds of every one of them. -/
theorem forall_ascii {property : Char → Prop} (all : ∀ code < 128, property (Char.ofNat code)) :
    ∀ c : Char, c.toNat < 128 → property c := by
  intro c ascii
  have holds := all c.toNat ascii
  rwa [Char.ofNat_toNat] at holds

/-- A text of ASCII letters, digits and underscores. -/
def IsPlain (text : String) : Prop :=
  ∀ c ∈ text.toList, Lexeme.isNameRest c = true

instance (text : String) : Decidable (IsPlain text) :=
  List.decidableBAll (fun c => Lexeme.isNameRest c = true) text.toList

/-- Texts are plain together if each of them is. -/
theorem isPlain_append {front rest : String} :
    IsPlain (front ++ rest) ↔ IsPlain front ∧ IsPlain rest := by
  simp only [IsPlain, String.toList_append, List.forall_mem_append]

/-- A word of the schema language is plain. -/
theorem isPlain_of_isWord {name : String} (isWord : IsWord name) : IsPlain name := by
  obtain ⟨starts, goesOn⟩ := isWord
  rw [IsPlain]
  cases shape : name.toList with
  | nil => exact List.forall_mem_nil _
  | cons c rest =>
      rw [shape] at starts goesOn
      exact List.forall_mem_cons.2
        ⟨(of_isNameStart starts).1, List.all_eq_true.1 goesOn⟩

/-- The characters of names are in the first 128. -/
theorem ascii_of_isNameRest {c : Char} (inName : Lexeme.isNameRest c = true) : c.toNat < 128 := by
  have below {bound : Char} (le : c.val ≤ bound.val) (ascii : bound.toNat < 128) :
      c.toNat < 128 := Nat.lt_of_le_of_lt le ascii
  rcases Bool.or_eq_true_iff.1 inName with alphanumeric | underscore
  · rcases Bool.or_eq_true_iff.1 alphanumeric with letter | digit
    · rcases Bool.or_eq_true_iff.1 letter with upper | lower
      · exact below (of_decide_eq_true upper).2 (by decide : 'Z'.toNat < 128)
      · exact below (of_decide_eq_true (Bool.and_eq_true_iff.1 lower).2)
          (by decide : 'z'.toNat < 128)
    · exact below (of_decide_eq_true (Bool.and_eq_true_iff.1 digit).2)
        (by decide : '9'.toNat < 128)
  · rw [of_decide_eq_true underscore]
    decide

/-- Plain letters and digits are in the first 128. -/
theorem ascii_of_isAlphanum {c : Char} (alphanumeric : c.isAlphanum = true) : c.toNat < 128 :=
  ascii_of_isNameRest (Bool.or_eq_true_iff.2 (.inl alphanumeric))

/-- The styles of a letter or digit. -/
@[mk_iff]
structure Styled (c : Char) : Prop where
  small : toSmall c = [c.toLower]
  isAlphanum_toLower : c.toLower.isAlphanum = true
  isAlphanum_toUpper : c.toUpper.isAlphanum = true
  isCapital_toLower : isCapital c.toLower = false
  isUpper_toLower : c.toLower.isUpper = false
  isDigit_toLower : c.toLower.isDigit = c.isDigit
  toLower_toLower : c.toLower.toLower = c.toLower
  toUpper_toLower : c.toLower.toUpper = c.toUpper
  digit : c.isDigit = true → c.toUpper = c ∧ c.toLower = c ∧ c.isUpper = false
  letter : c.isDigit = false → c.toUpper.isUpper = true ∧ c.toUpper.toLower = c.toLower

instance (c : Char) : Decidable (Styled c) :=
  decidable_of_iff _ (styled_iff c).symm

/-- Plain letters and digits have the usual small and capital forms. -/
theorem styled_of_isAlphanum {c : Char} (alphanumeric : c.isAlphanum = true) : Styled c := by
  have styled : ∀ c : Char, c.toNat < 128 → c.isAlphanum = true → Styled c :=
    forall_ascii (by decide +kernel)
  exact styled c (ascii_of_isAlphanum alphanumeric) alphanumeric

/-! ## Words -/

/-- A character in front of the first word leaves no word empty. -/
theorem prependToFirst_ne_nil {words : List (List Char)} (c : Char)
    (nonempty : ∀ word ∈ words.tail, word ≠ []) : ∀ word ∈ prependToFirst c words, word ≠ [] := by
  cases words with
  | nil => simp [prependToFirst]
  | cons first others => exact List.forall_mem_cons.2 ⟨List.cons_ne_nil c first, nonempty⟩

/--
No word is empty, except that a run of capitals which goes on in the piece may end before its first
character.
-/
theorem cutWords_ne_nil (mode : CaseMode) (piece : List Char) :
    (∀ word ∈ (cutWords mode piece).tail, word ≠ []) ∧
      (mode ≠ .capital → ∀ word ∈ cutWords mode piece, word ≠ []) := by
  induction piece generalizing mode with
  | nil => exact ⟨List.forall_mem_nil _, fun _ => List.forall_mem_nil _⟩
  | cons c rest inductionHypothesis =>
      have whole {words : List (List Char)} (nonempty : ∀ word ∈ words, word ≠ []) :
          (∀ word ∈ words.tail, word ≠ []) ∧ (mode ≠ .capital → ∀ word ∈ words, word ≠ []) :=
        ⟨fun word member => nonempty word (List.mem_of_mem_tail member), fun _ => nonempty⟩
      cases rest with
      | nil => exact whole (by simp [cutWords])
      | cons next rest =>
          have fresh := (inductionHypothesis .unknown).2 (by decide)
          have started := prependToFirst_ne_nil c (inductionHypothesis .unknown).1
          unfold cutWords
          split
          · exact whole (List.forall_mem_cons.2 ⟨List.cons_ne_nil c [], fresh⟩)
          · split
            · next cut =>
              simp only [Bool.and_eq_true, decide_eq_true_eq] at cut
              exact ⟨started, fun other => absurd cut.1.1 other⟩
            · exact whole (prependToFirst_ne_nil c (inductionHypothesis _).1)

/-- The pieces of a text have its characters, without the separators. -/
theorem mem_of_mem_splitWhere {isSeparator : Char → Bool} {text piece : List Char}
    (member : piece ∈ splitWhere isSeparator text) :
    ∀ c ∈ piece, c ∈ text ∧ isSeparator c = false := by
  induction text generalizing piece with
  | nil =>
      rw [splitWhere, List.mem_singleton] at member
      simp [member]
  | cons first rest inductionHypothesis =>
      have later {other : List Char} (isPiece : other ∈ splitWhere isSeparator rest) :
          ∀ c ∈ other, c ∈ first :: rest ∧ isSeparator c = false := fun c inPiece =>
        ⟨List.mem_cons_of_mem _ (inductionHypothesis isPiece c inPiece).1,
          (inductionHypothesis isPiece c inPiece).2⟩
      cases free : isSeparator first with
      | true =>
          rw [splitWhere_cons_of_separator free, List.mem_cons] at member
          rcases member with rfl | member
          · exact List.forall_mem_nil _
          · exact later member
      | false =>
          obtain ⟨next, pieces, split⟩ :=
            List.exists_cons_of_ne_nil (splitWhere_ne_nil isSeparator rest)
          rw [splitWhere_cons_of_free free split, List.mem_cons] at member
          rw [split] at later
          rcases member with rfl | member
          · exact List.forall_mem_cons.2
              ⟨⟨List.mem_cons_self, free⟩, later List.mem_cons_self⟩
          · exact later (List.mem_cons_of_mem _ member)

/-- A word of a name is not empty, and has those characters of the name that can be in words. -/
theorem of_mem_words {name : String} {word : List Char} (member : word ∈ words name) :
    word ≠ [] ∧ ∀ c ∈ word, c ∈ name.toList ∧ isWordCharacter c = true := by
  obtain ⟨piece, isPiece, isWord⟩ := List.mem_flatMap.1 member
  refine ⟨(cutWords_ne_nil .unknown piece).2 (by decide) word isWord, fun c inWord => ?_⟩
  have inPiece : c ∈ piece := by
    rw [← flatten_cutWords .unknown piece]
    exact List.mem_flatten.2 ⟨word, isWord, inWord⟩
  simpa using mem_of_mem_splitWhere isPiece c inPiece

/-- A word of ASCII letters and digits. -/
structure IsPlainWord (word : List Char) : Prop where
  nonempty : word ≠ []
  alphanumeric : ∀ c ∈ word, c.isAlphanum = true

/-- A name of ASCII letters, digits and underscores has words of ASCII letters and digits. -/
theorem plain_of_mem_words {name : String} (plain : IsPlain name) {word : List Char}
    (member : word ∈ words name) : IsPlainWord word := by
  obtain ⟨nonempty, characters⟩ := of_mem_words member
  refine ⟨nonempty, fun c inWord => ?_⟩
  obtain ⟨isCharacter, inWords⟩ := characters c inWord
  rwa [isWordCharacter_of_ascii (ascii_of_isNameRest (plain c isCharacter))] at inWords

/-- A word of plain letters and digits becomes small letter by letter. -/
theorem smallWord_of_plain {word : List Char} (alphanumeric : ∀ c ∈ word, c.isAlphanum = true) :
    smallWord word = word.map Char.toLower := by
  induction word with
  | nil => rfl
  | cons c rest inductionHypothesis =>
      obtain ⟨first, others⟩ := List.forall_mem_cons.1 alphanumeric
      have small := (styled_of_isAlphanum first).small
      cases rest with
      | nil =>
          have notSigma : c ≠ 'Σ' := by
            rintro rfl
            exact absurd first (by decide)
          rw [smallWord, if_neg notSigma, small]
          rfl
      | cons next rest =>
          have shape : smallWord (c :: next :: rest) = toSmall c ++ smallWord (next :: rest) := rfl
          rw [shape, small, inductionHypothesis others]
          rfl

/-- A word in small letters has no capitals. -/
theorem IsPlainWord.small {word : List Char} (plain : IsPlainWord word) :
    IsPlainWord (smallWord word) ∧ ∀ c ∈ smallWord word, isCapital c = false := by
  rw [smallWord_of_plain plain.alphanumeric]
  have styled : ∀ c ∈ word.map Char.toLower, c.isAlphanum = true ∧ isCapital c = false := by
    intro c member
    obtain ⟨original, inWord, rfl⟩ := List.mem_map.1 member
    have styles := styled_of_isAlphanum (plain.alphanumeric original inWord)
    exact ⟨styles.isAlphanum_toLower, styles.isCapital_toLower⟩
  exact ⟨⟨by simpa using plain.nonempty, fun c member => (styled c member).1⟩,
    fun c member => (styled c member).2⟩

/-- Small letters stay as they are. -/
theorem IsPlainWord.smallWord_smallWord {word : List Char} (plain : IsPlainWord word) :
    smallWord (smallWord word) = smallWord word := by
  rw [smallWord_of_plain plain.small.1.alphanumeric, smallWord_of_plain plain.alphanumeric,
    List.map_map]
  exact List.map_congr_left fun c member =>
    (styled_of_isAlphanum (plain.alphanumeric c member)).toLower_toLower

/-! ## Pieces with a character between them -/

section Intercalate

variable {separator c : Char} {pieces : List (List Char)}

/-- Behind its first piece, a list has the separator in front of every piece. -/
theorem intercalate_cons (separator : Char) (first : List Char) (others : List (List Char)) :
    [separator].intercalate (first :: others) = first ++ others.flatMap (separator :: ·) := by
  induction others generalizing first with
  | nil => simp
  | cons second others inductionHypothesis =>
      rw [List.intercalate_cons_cons, inductionHypothesis, List.flatMap_cons]
      simp

/-- What a piece has, the joined text has. -/
theorem mem_intercalate_of_mem {piece : List Char} (isPiece : piece ∈ pieces)
    (inPiece : c ∈ piece) : c ∈ [separator].intercalate pieces := by
  cases pieces with
  | nil => cases isPiece
  | cons first others =>
      rw [intercalate_cons, List.mem_append, List.mem_flatMap]
      rcases List.mem_cons.1 isPiece with rfl | later
      · exact .inl inPiece
      · exact .inr ⟨piece, later, List.mem_cons_of_mem _ inPiece⟩

/-- What a joined text has is a separator or stands in a piece. -/
theorem exists_of_mem_intercalate (member : c ∈ [separator].intercalate pieces) :
    c = separator ∨ ∃ piece ∈ pieces, c ∈ piece := by
  cases pieces with
  | nil => cases member
  | cons first others =>
      rw [intercalate_cons, List.mem_append, List.mem_flatMap] at member
      rcases member with inFirst | ⟨piece, isPiece, inPiece⟩
      · exact .inr ⟨first, List.mem_cons_self, inFirst⟩
      · rcases List.mem_cons.1 inPiece with rfl | inside
        · exact .inl rfl
        · exact .inr ⟨piece, List.mem_cons_of_mem _ isPiece, inside⟩

end Intercalate

/-! ## Names in a style -/

/-- A name in small letters has its words with underscores between them. -/
theorem toList_snakeCase (name : String) :
    (snakeCase name).toList = ['_'].intercalate ((words name).map smallWord) := by
  simp [snakeCase, List.map_map, Function.comp_def]

/-- A name in capitals has its words one after another. -/
theorem toList_upperCamelCase (name : String) :
    (upperCamelCase name).toList = (words name).flatMap capitalisedWord := by
  simp [upperCamelCase, List.flatMap_def, List.map_map, Function.comp_def]

/-- A name in small letters is plain exactly if all its words are. -/
theorem isPlain_snakeCase_iff {name : String} :
    IsPlain (snakeCase name) ↔
      ∀ word ∈ words name, ∀ c ∈ smallWord word, Lexeme.isNameRest c = true := by
  rw [IsPlain, toList_snakeCase]
  constructor
  · intro plain word isWord c inWord
    exact plain c (mem_intercalate_of_mem (List.mem_map_of_mem isWord) inWord)
  · intro plain c member
    rcases exists_of_mem_intercalate member with rfl | ⟨piece, isPiece, inPiece⟩
    · decide
    · obtain ⟨word, isWord, rfl⟩ := List.mem_map.1 isPiece
      exact plain word isWord c inPiece

/-- A name in small letters is plain exactly if it is on both sides of an underscore. -/
theorem isPlain_snakeCase_append {front rest : String} :
    IsPlain (snakeCase (front ++ "_" ++ rest)) ↔
      IsPlain (snakeCase front) ∧ IsPlain (snakeCase rest) := by
  simp only [isPlain_snakeCase_iff, words_append, List.forall_mem_append]

/-- A name that is not empty in small letters has a word. -/
theorem words_ne_nil {name : String} (named : snakeCase name ≠ "") : words name ≠ [] := by
  intro none
  rw [snakeCase, none] at named
  exact named rfl

/-- What stands on both sides of an underscore keeps it in small letters. -/
theorem underscore_mem_snakeCase {front rest : String} (isFront : snakeCase front ≠ "")
    (isRest : snakeCase rest ≠ "") : '_' ∈ (snakeCase (front ++ "_" ++ rest)).toList := by
  obtain ⟨first, others, frontWords⟩ := List.exists_cons_of_ne_nil (words_ne_nil isFront)
  obtain ⟨second, more, restWords⟩ := List.exists_cons_of_ne_nil (words_ne_nil isRest)
  rw [toList_snakeCase, words_append, frontWords, restWords, List.cons_append, List.map_cons,
    intercalate_cons]
  simp

/-- Without capitals, a piece is one word. -/
theorem cutWords_of_small {piece : List Char} (nonempty : piece ≠ [])
    (small : ∀ c ∈ piece, isCapital c = false) (mode : CaseMode) :
    cutWords mode piece = [piece] := by
  induction piece generalizing mode with
  | nil => exact absurd rfl nonempty
  | cons c rest inductionHypothesis =>
      obtain ⟨firstSmall, restSmall⟩ := List.forall_mem_cons.1 small
      cases rest with
      | nil => rfl
      | cons next rest =>
          have nextSmall := restSmall next List.mem_cons_self
          rw [cutWords, if_neg (by simp [nextSmall]), if_neg (by simp [firstSmall]),
            inductionHypothesis (List.cons_ne_nil _ _) restSmall]
          rfl

/-- Words with underscores between them are found again. -/
theorem splitWhere_intercalate {isSeparator : Char → Bool} {separator : Char}
    (separates : isSeparator separator = true) {pieces : List (List Char)} (nonempty : pieces ≠ [])
    (free : ∀ piece ∈ pieces, ∀ c ∈ piece, isSeparator c = false) :
    splitWhere isSeparator ([separator].intercalate pieces) = pieces := by
  induction pieces with
  | nil => exact absurd rfl nonempty
  | cons first others inductionHypothesis =>
      obtain ⟨firstFree, othersFree⟩ := List.forall_mem_cons.1 free
      cases others with
      | nil => simpa using splitWhere_of_free firstFree
      | cons second others =>
          have rest := inductionHypothesis (List.cons_ne_nil _ _) othersFree
          rw [List.intercalate_cons_cons, List.append_assoc, List.singleton_append,
            splitWhere_append separates, splitWhere_of_free firstFree, rest]
          rfl

section Names

variable {name : String} (plain : IsPlain name)

include plain

/-- A name in small letters has the words of the name, in small letters. -/
theorem words_snakeCase : words (snakeCase name) = (words name).map smallWord := by
  by_cases none : words name = []
  · rw [snakeCase, none]
    rfl
  · have small : ∀ word ∈ (words name).map smallWord,
        IsPlainWord word ∧ ∀ c ∈ word, isCapital c = false := by
      intro word member
      obtain ⟨original, isWord, rfl⟩ := List.mem_map.1 member
      exact (plain_of_mem_words plain isWord).small
    have free : ∀ word ∈ (words name).map smallWord, ∀ c ∈ word, (!isWordCharacter c) = false := by
      intro word member c inWord
      have alphanumeric := (small word member).1.alphanumeric c inWord
      simp [isWordCharacter_of_ascii (ascii_of_isAlphanum alphanumeric), alphanumeric]
    have pieces := splitWhere_intercalate (by decide : (!isWordCharacter '_') = true)
      (by simpa using none) free
    have uncut : ∀ word ∈ (words name).map smallWord, cutWords .unknown word = [word] :=
      fun word member =>
        cutWords_of_small (small word member).1.nonempty (small word member).2 .unknown
    rw [words, toList_snakeCase, pieces, List.flatMap_congr uncut, List.flatMap_singleton']

/-- Writing a name in small letters twice is the same as once. -/
theorem snakeCase_snakeCase : snakeCase (snakeCase name) = snakeCase name := by
  rw [snakeCase, words_snakeCase plain, snakeCase, List.map_map]
  congr 1
  apply List.map_congr_left
  intro word member
  exact congrArg String.ofList (plain_of_mem_words plain member).smallWord_smallWord

/-- A name in small letters has no capitals. -/
theorem of_mem_snakeCase : ∀ c ∈ (snakeCase name).toList,
    Lexeme.isNameRest c = true ∧ isCapital c = false := by
  intro c member
  rw [toList_snakeCase] at member
  rcases exists_of_mem_intercalate member with rfl | ⟨piece, isPiece, inPiece⟩
  · decide
  · obtain ⟨word, isWord, rfl⟩ := List.mem_map.1 isPiece
    obtain ⟨small, noCapitals⟩ := (plain_of_mem_words plain isWord).small
    exact ⟨Bool.or_eq_true_iff.2 (.inl (small.alphanumeric c inPiece)), noCapitals c inPiece⟩

/-- A plain name is plain in small letters too. -/
theorem isPlain_snakeCase : IsPlain (snakeCase name) := fun c member =>
  (of_mem_snakeCase plain c member).1

/-- A name in small letters starts with a letter or digit. -/
theorem isAlphanum_of_starts {c : Char} {rest : List Char}
    (starts : (snakeCase name).toList = c :: rest) : c.isAlphanum = true := by
  rw [toList_snakeCase] at starts
  cases shape : words name with
  | nil => simp [shape] at starts
  | cons word others =>
      have small := (plain_of_mem_words plain (shape ▸ List.mem_cons_self)).small.1
      obtain ⟨first, more, isSmall⟩ := List.exists_cons_of_ne_nil small.nonempty
      rw [shape, List.map_cons, intercalate_cons, isSmall, List.cons_append] at starts
      obtain ⟨rfl, -⟩ := List.cons.inj starts
      exact small.alphanumeric first (isSmall ▸ List.mem_cons_self)

end Names

/-! ## Names of any text -/

/-- The ASCII characters of a text are letters, digits and underscores. -/
def NameLike (text : List Char) : Prop :=
  ∀ c ∈ text, c.toNat < 128 → Lexeme.isNameRest c = true

instance (text : List Char) : Decidable (NameLike text) :=
  List.decidableBAll (fun c : Char => c.toNat < 128 → Lexeme.isNameRest c = true) text

/-- A text that is like a name has no plain character that names do not have. -/
theorem NameLike.notMem {text : List Char} (nameLike : NameLike text) {c : Char}
    (ascii : c.toNat < 128) (other : Lexeme.isNameRest c = false) : c ∉ text := fun member =>
  absurd (nameLike c member ascii) (by simp [other])

/-- A code that is one of a character is kept by the character. -/
theorem toNat_ofNat {code : Nat} (valid : code.isValidChar) : (Char.ofNat code).toNat = code := by
  rw [Char.ofNat, dif_pos valid]
  rfl

/-- A run of capitals has small forms beyond ASCII, or it is one capital whose small form is a
letter of ASCII, as for the sign of the kelvin. -/
theorem caseRuns_shift : ∀ run ∈ caseRuns,
    (128 ≤ run.first + run.shift ∧ run.last + run.shift < 55296) ∨
      (57344 ≤ run.first + run.shift ∧ run.last + run.shift < 1114112) ∨
      (run.first = run.last ∧ (Char.ofNat (run.first + run.shift).toNat).isAlphanum = true) := by
  decide +kernel

/-- Where a table changes the case of a character, the other form is like a name. -/
theorem CaseRun.nameLike {run : CaseRun} (isRun : run ∈ caseRuns) {code : Nat}
    (covers : run.covers code = true) :
    NameLike [Char.ofNat ((code : Int) + run.shift).toNat] := by
  simp only [CaseRun.covers, Bool.and_eq_true, decide_eq_true_eq] at covers
  obtain ⟨⟨first, last⟩, -⟩ := covers
  intro small member ascii
  obtain rfl := List.mem_singleton.1 member
  have valid_of (beyond : 128 ≤ (code : Int) + run.shift)
      (valid : ((code : Int) + run.shift).toNat.isValidChar) :
      ¬(Char.ofNat ((code : Int) + run.shift).toNat).toNat < 128 := by
    rw [toNat_ofNat valid]
    omega
  rcases caseRuns_shift run isRun with ⟨low, high⟩ | ⟨low, high⟩ | ⟨single, letter⟩
  · exact absurd ascii (valid_of (by omega) (.inl (by omega)))
  · exact absurd ascii (valid_of (by omega) (.inr (by omega)))
  · obtain rfl : code = run.first := by omega
    exact Bool.or_eq_true_iff.2 (.inl letter)

/-- The small form of a character of words is like a name. -/
theorem nameLike_toSmall {c : Char} (inWord : isWordCharacter c = true) :
    NameLike (toSmall c) := by
  unfold toSmall
  split
  · next ascii =>
    have alphanumeric := isWordCharacter_of_ascii ascii ▸ inWord
    intro small member _
    obtain rfl := List.mem_singleton.1 member
    exact Bool.or_eq_true_iff.2 (.inl (styled_of_isAlphanum alphanumeric).isAlphanum_toLower)
  · next beyond =>
    split
    · decide
    · split
      · next run found =>
        have covers := List.find?_some found
        exact CaseRun.nameLike (List.mem_of_find?_eq_some found) covers
      · intro small member ascii
        obtain rfl := List.mem_singleton.1 member
        exact absurd ascii beyond

/-- A word in small letters is like a name. -/
theorem nameLike_smallWord {word : List Char}
    (inWord : ∀ c ∈ word, isWordCharacter c = true) : NameLike (smallWord word) := by
  induction word with
  | nil => exact List.forall_mem_nil _
  | cons c rest inductionHypothesis =>
      obtain ⟨first, others⟩ := List.forall_mem_cons.1 inWord
      cases rest with
      | nil =>
          rw [smallWord]
          split
          · decide
          · exact nameLike_toSmall first
      | cons next rest =>
          have shape : smallWord (c :: next :: rest) = toSmall c ++ smallWord (next :: rest) := rfl
          rw [shape]
          exact List.forall_mem_append.2 ⟨nameLike_toSmall first, inductionHypothesis others⟩

/-- A word with a capital is like a name. -/
theorem nameLike_capitalisedWord {word : List Char}
    (inWord : ∀ c ∈ word, isWordCharacter c = true) : NameLike (capitalisedWord word) := by
  cases word with
  | nil => exact List.forall_mem_nil _
  | cons c rest =>
      obtain ⟨first, others⟩ := List.forall_mem_cons.1 inWord
      refine List.forall_mem_cons.2 ⟨fun ascii => ?_, nameLike_smallWord others⟩
      rcases Nat.lt_or_ge c.toNat 128 with original | beyond
      · have alphanumeric := isWordCharacter_of_ascii original ▸ first
        exact Bool.or_eq_true_iff.2 (.inl (styled_of_isAlphanum alphanumeric).isAlphanum_toUpper)
      · have notSmall : ¬('a'.val ≤ c.val ∧ c.val ≤ 'z'.val) := fun small =>
          absurd (Nat.lt_of_le_of_lt small.2 (by decide : 'z'.toNat < 128)) (Nat.not_lt.2 beyond)
        have same : c.toUpper = c := dif_neg notSmall
        rw [same] at ascii
        exact absurd ascii (Nat.not_lt.2 beyond)

/-- Whatever a name is, in small letters its ASCII characters are plain. -/
theorem nameLike_snakeCase (name : String) : NameLike (snakeCase name).toList := by
  rw [toList_snakeCase]
  intro c member ascii
  rcases exists_of_mem_intercalate member with rfl | ⟨piece, isPiece, inPiece⟩
  · decide
  · obtain ⟨word, isWord, rfl⟩ := List.mem_map.1 isPiece
    have inWord := fun c member => ((of_mem_words isWord).2 c member).2
    exact nameLike_smallWord inWord c inPiece ascii

/-- Every name in capitals is like a name. -/
theorem nameLike_upperCamelCase (name : String) : NameLike (upperCamelCase name).toList := by
  rw [toList_upperCamelCase]
  intro c member
  obtain ⟨word, isWord, inWord⟩ := List.mem_flatMap.1 member
  exact nameLike_capitalisedWord (fun c member => ((of_mem_words isWord).2 c member).2) c inWord

end Schemata.Text
