import Mathlib.Order.Bounds.Defs
import Schemata.Json.Reader
import Schemata.Proofs.Access.Embedding
import Schemata.Proofs.Sql.Quoting

/-!
# String literals are read back

Generated code holds every text as a string literal. A text of one line stands between quotes, with
escapes for what cannot stand there as itself; a text of several lines stands raw between fences of
hashes, and nothing in it may look like its end. Both are read by the rules of the generated
language, from the opening quote to the first quote that can close them, and both give the text
back, whatever follows. A fence gets one hash more as long as a quote with its hashes stands in the
text (`lengthen`); that comes to an end one hash past the longest run behind a quote.
-/

namespace Schemata.Access

open Sql (readBehind)

/-! ## Reading by the rules of generated code -/

/-- What closes a raw literal: a quote with a number of hashes behind it. -/
def closer (hashes : Nat) : List Char :=
  '"' :: List.replicate hashes '#'

/-- What stands before the first closer, and what follows that closer. -/
def readToCloser (hashes : Nat) : List Char → Option (List Char × List Char)
  | [] => none
  | c :: rest =>
    if closer hashes <+: c :: rest then some ([], rest.drop hashes)
    else (readToCloser hashes rest).map (readBehind c)

/-- A raw literal whose mark was read: its hashes, a quote, and what stands before the closer. -/
def readRaw (text : List Char) : Option (List Char × List Char) :=
  match text.dropWhile (· = '#') with
  | [] => none
  | c :: rest => if c = '"' then readToCloser (leadingHashes text) rest else none

/-- What stands behind a backslash, and the character that is meant. -/
def simpleEscapes : List (Char × Char) :=
  [('n', '\n'), ('r', '\r'), ('t', '\t'), ('0', Char.ofNat 0), ('\\', '\\'), ('"', '"')]

/-- The character of a code point that is written in one to six hexadecimal digits. -/
def codePoint? (digits : List Char) : Option Char :=
  if 1 ≤ digits.length ∧ digits.length ≤ 6 then
    (Json.hexNumber? digits).bind fun value =>
      if value.isValidChar then some (Char.ofNat value) else none
  else none

/-- The character of a code point between braces, and what follows it. -/
def readCodePoint : List Char → Option (Char × List Char)
  | [] => none
  | c :: rest =>
    if c = '{' then
      match rest.dropWhile (· ≠ '}') with
      | [] => none
      | _ :: behind => (codePoint? (rest.takeWhile (· ≠ '}'))).map fun meant => (meant, behind)
    else none

/-- The character that an escape stands for, and what follows it; the backslash was read. -/
def readEscape : List Char → Option (Char × List Char)
  | [] => none
  | c :: rest =>
    match simpleEscapes.lookup c with
    | some meant => some (meant, rest)
    | none => if c = 'u' then readCodePoint rest else none

/-- Reading a code point uses up some of the text. -/
theorem length_lt_of_readCodePoint {text behind : List Char} {meant : Char}
    (read : readCodePoint text = some (meant, behind)) : behind.length < text.length := by
  cases text with
  | nil => cases read
  | cons c rest =>
      rw [readCodePoint] at read
      have shorter := (List.dropWhile_sublist (l := rest) (· ≠ '}')).length_le
      split at read
      · split at read
        · cases read
        · next other found isFound =>
          obtain ⟨_, -, same⟩ := Option.map_eq_some_iff.1 read
          cases same
          rw [isFound] at shorter
          simp only [List.length_cons] at shorter ⊢
          omega
      · cases read

/-- Reading an escape uses up some of the text. -/
theorem length_lt_of_readEscape {text behind : List Char} {meant : Char}
    (read : readEscape text = some (meant, behind)) : behind.length < text.length := by
  cases text with
  | nil => cases read
  | cons c rest =>
      rw [readEscape] at read
      split at read
      · cases read
        exact Nat.lt_succ_self _
      · split at read
        · exact Nat.lt_succ_of_lt (length_lt_of_readCodePoint read)
        · cases read

/-- The content of a quoted literal up to the first quote that is not escaped, and what follows
that quote. -/
def readQuoted : List Char → Option (List Char × List Char)
  | [] => none
  | c :: rest =>
    if c = '"' then some ([], rest)
    else if c = '\\' then
      match escape : readEscape rest with
      | none => none
      | some (meant, behind) =>
        have : behind.length < rest.length := length_lt_of_readEscape escape
        (readQuoted behind).map (readBehind meant)
    else (readQuoted rest).map (readBehind c)
termination_by text => text.length

/-- The string literal that a text starts with: what it denotes, and what follows it. -/
def readLiteral : List Char → Option (List Char × List Char)
  | [] => none
  | c :: rest =>
    if c = 'r' then readRaw rest
    else if c = '"' then readQuoted rest
    else none

/-! ## Fences -/

/-- A text in which a raw literal is closed is longer than the number of hashes. -/
theorem lt_length_of_closer {hashes : Nat} {text : List Char} (stands : closer hashes <:+: text) :
    hashes < text.length := by
  have fits := stands.length_le
  rwa [closer, List.length_cons, List.length_replicate] at fits

/-- Lengthen a fence by one hash as long as a quote with its hashes stands in a text. -/
def lengthen (text : List Char) (hashes : Nat) : Nat :=
  if stands : closer hashes <:+: text then
    have : hashes < text.length := lt_length_of_closer stands
    lengthen text (hashes + 1)
  else hashes
termination_by text.length - hashes

/-- A text starts with a number of hashes if it starts with that many or more. -/
theorem replicate_isPrefix_iff {count : Nat} {text : List Char} :
    List.replicate count '#' <+: text ↔ count ≤ leadingHashes text := by
  induction text generalizing count with
  | nil => cases count <;> simp [leadingHashes, List.replicate_succ]
  | cons c text inductionHypothesis =>
      cases count with
      | zero => simp
      | succ count =>
          rw [List.replicate_succ, List.cons_prefix_cons, inductionHypothesis]
          unfold leadingHashes
          by_cases isHash : c = '#'
          · simp [isHash]
          · simp [isHash, Ne.symm isHash]

/-- A fence of some hashes can be mistaken in a text exactly if as many stand behind a quote. -/
theorem closer_isInfix_iff {hashes : Nat} (positive : 0 < hashes) {text : List Char} :
    closer hashes <:+: text ↔ hashes ≤ hashesBehindQuotes text := by
  induction text with
  | nil =>
      simp only [closer, List.infix_nil, hashesBehindQuotes, reduceCtorEq, false_iff]
      omega
  | cons c text inductionHypothesis =>
      rw [List.infix_cons_iff, inductionHypothesis, closer, List.cons_prefix_cons,
        replicate_isPrefix_iff, hashesBehindQuotes]
      by_cases isQuote : c = '"'
      · simp only [isQuote, true_and, if_pos]
        omega
      · simp [isQuote, Ne.symm isQuote]

/-- Lengthening a fence ends one hash past the longest run behind a quote. -/
theorem lengthen_eq {text : List Char} {hashes : Nat} (positive : 0 < hashes)
    (within : hashes ≤ hashesBehindQuotes text + 1) :
    lengthen text hashes = hashesBehindQuotes text + 1 := by
  fun_induction lengthen text hashes with
  | case1 hashes stands _ inductionHypothesis =>
      have run := (closer_isInfix_iff positive).1 stands
      exact inductionHypothesis (Nat.succ_pos hashes) (Nat.succ_le_succ run)
  | case2 hashes free =>
      have longer := mt (closer_isInfix_iff positive).2 free
      omega

/-- The fence of a text is the shortest that cannot be mistaken in it. -/
theorem isLeast_fence (text : List Char) :
    IsLeast {hashes | 1 ≤ hashes ∧ ¬closer hashes <:+: text} (hashesBehindQuotes text + 1) := by
  refine ⟨⟨Nat.succ_pos _, ?_⟩, ?_⟩
  · rw [closer_isInfix_iff (Nat.succ_pos _)]
    exact Nat.not_succ_le_self _
  · rintro hashes ⟨positive, free⟩
    rw [closer_isInfix_iff positive] at free
    exact Nat.lt_of_not_le free

/-- A text stands before the first closer of an input. -/
structure ClosedFirst (hashes : Nat) (input text rest : List Char) : Prop where
  closed : input = text ++ closer hashes ++ rest
  first : ∀ before after, input = before ++ closer hashes ++ after → text.length ≤ before.length

/-- A closer that starts in a text ends in it, as a quote comes behind the text. -/
theorem closer_isPrefix_of_append {hashes : Nat} {c : Char} {text rest : List Char}
    (starts : closer hashes <+: c :: text ++ closer hashes ++ rest) :
    closer hashes <+: c :: text := by
  have behind : leadingHashes (text ++ closer hashes ++ rest) = leadingHashes text := by
    unfold leadingHashes closer
    rw [List.append_assoc, List.takeWhile_append]
    split
    · next whole => simp [whole]
    · rfl
  rw [List.cons_append, List.cons_append] at starts
  obtain ⟨isQuote, run⟩ := List.cons_prefix_cons.1 starts
  rw [replicate_isPrefix_iff, behind] at run
  exact List.cons_prefix_cons.2 ⟨isQuote, replicate_isPrefix_iff.2 run⟩

/-- A text without a closer is closed by the first one behind it. -/
theorem closedFirst_of_free {hashes : Nat} {text : List Char} (free : ¬closer hashes <:+: text)
    (rest : List Char) : ClosedFirst hashes (text ++ closer hashes ++ rest) text rest := by
  refine ⟨rfl, fun before after split => Nat.le_of_not_lt fun shorter => free ?_⟩
  rw [List.append_assoc, List.append_assoc] at split
  rcases List.append_eq_append_iff.1 split with ⟨more, rfl, -⟩ | ⟨more, rfl, follows⟩
  · rw [List.length_append] at shorter
    omega
  · cases more with
    | nil => simp at shorter
    | cons c more =>
        have starts : closer hashes <+: c :: more ++ closer hashes ++ rest :=
          ⟨after, by rw [follows, List.append_assoc]⟩
        exact (closer_isPrefix_of_append starts).isInfix.trans (List.suffix_append _ _).isInfix

/-- A text that the first closer closes is read. -/
theorem ClosedFirst.readToCloser_eq {hashes : Nat} {input text rest : List Char}
    (closed : ClosedFirst hashes input text rest) :
    readToCloser hashes input = some (text, rest) := by
  induction text generalizing input with
  | nil =>
      obtain ⟨rfl, -⟩ := closed
      have starts : closer hashes <+: '"' :: (List.replicate hashes '#' ++ rest) :=
        ⟨rest, rfl⟩
      rw [List.nil_append, closer, List.cons_append, readToCloser, if_pos starts]
      simp
  | cons c text inductionHypothesis =>
      obtain ⟨rfl, first⟩ := closed
      have later : ¬closer hashes <+: c :: (text ++ closer hashes ++ rest) := by
        rintro ⟨after, split⟩
        have none := first [] after (by rw [List.nil_append, split]; rfl)
        simp at none
      have tail : ClosedFirst hashes (text ++ closer hashes ++ rest) text rest := by
        refine ⟨rfl, fun before after split => ?_⟩
        have behind := first (c :: before) after (by simp [← split])
        simpa using behind
      rw [List.cons_append, List.cons_append, readToCloser, if_neg later, inductionHypothesis tail]
      rfl

/-- A text between fences that cannot be mistaken in it is read back. -/
theorem readRaw_of_free {hashes : Nat} {text : List Char} (free : ¬closer hashes <:+: text)
    (rest : List Char) :
    readRaw (List.replicate hashes '#' ++ '"' :: (text ++ closer hashes ++ rest)) =
      some (text, rest) := by
  generalize isInput : List.replicate hashes '#' ++ '"' :: (text ++ closer hashes ++ rest) = input
  obtain ⟨fence, behind⟩ : input.takeWhile (· = '#') = List.replicate hashes '#' ∧
      input.dropWhile (· = '#') = '"' :: (text ++ closer hashes ++ rest) := by
    rw [← isInput]
    exact span_append (by simp) (by simp)
  have count : leadingHashes input = hashes := by rw [leadingHashes, fence, List.length_replicate]
  rw [readRaw, behind, count]
  exact (closedFirst_of_free free rest).readToCloser_eq

/-! ## Escapes -/

/-- The hexadecimal digits of a number are read as the number. -/
theorem hexNumber?_toDigits (number : Nat) :
    Json.hexNumber? (Nat.toDigits 16 number) = some number := by
  have digit : ∀ value < 16, Json.hexDigit? value.digitChar = some value := by decide
  unfold Json.hexNumber?
  induction number using Nat.strongRecOn with
  | ind number inductionHypothesis =>
      rw [Nat.toDigits_eq_if (by decide)]
      split
      · next small => simp [digit number small]
      · have last := digit (number % 16) (Nat.mod_lt _ (by decide))
        rw [List.foldlM_append, inductionHypothesis (number / 16) (by omega)]
        simp [last]
        omega

/-- The code point of a character is read as the character. -/
theorem codePoint?_toDigits (c : Char) : codePoint? (Nat.toDigits 16 c.toNat) = some c := by
  have valid : c.toNat.isValidChar := c.valid
  have bounded : c.toNat < 16 ^ 6 := by
    unfold Nat.isValidChar at valid
    omega
  have short := (Nat.length_toDigits_le_iff (by decide) (by decide)).2 bounded
  rw [codePoint?, if_pos ⟨Nat.length_toDigits_pos, short⟩, hexNumber?_toDigits, Option.bind_some,
    if_pos valid, Char.ofNat_toNat]

/-- How a character can be spelled in a quoted literal. -/
inductive Spelled (c : Char) : List Char → Prop where
  | simple {letter : Char} (escapes : simpleEscapes.lookup letter = some c) :
      Spelled c ['\\', letter]
  | code : Spelled c ('\\' :: 'u' :: '{' :: (Nat.toDigits 16 c.toNat ++ ['}']))
  | plain (notQuote : c ≠ '"') (notEscape : c ≠ '\\') : Spelled c [c]

/-- The printer spells a character in one of the ways that it can be spelled in. -/
theorem spelled_quotedCharacter (c : Char) : Spelled c (Text.quotedCharacter c) := by
  unfold Text.quotedCharacter
  split
  · next isQuote => subst isQuote; exact .simple rfl
  split
  · next isEscape => subst isEscape; exact .simple rfl
  split
  · next isNewline => subst isNewline; exact .simple rfl
  split
  · next isReturn => subst isReturn; exact .simple rfl
  split
  · next isTab => subst isTab; exact .simple rfl
  split
  · next isNull =>
    obtain rfl : Char.ofNat 0 = c := by rw [← isNull, Char.ofNat_toNat]
    exact .simple rfl
  split
  · exact .code
  · next notQuote notEscape _ _ _ _ _ => exact .plain notQuote notEscape

/-- An escape in a quoted literal is read as the character that it means. -/
theorem readQuoted_of_readEscape {text behind : List Char} {meant : Char}
    (read : readEscape text = some (meant, behind)) :
    readQuoted ('\\' :: text) = (readQuoted behind).map (readBehind meant) := by
  rw [readQuoted, if_neg (by decide), if_pos rfl]
  split
  · next refused => cases read.symm.trans refused
  · next found =>
    cases read.symm.trans found
    rfl

/-- A code point between braces is read as its character. -/
theorem readEscape_code (c : Char) (rest : List Char) :
    readEscape ('u' :: '{' :: (Nat.toDigits 16 c.toNat ++ '}' :: rest)) = some (c, rest) := by
  have digits : ∀ digit ∈ Nat.toDigits 16 c.toNat, digit ≠ '}' := by
    rintro digit member rfl
    exact notMem_toDigits (fun _ => Nat.digitChar_ne '}' rfl) c.toNat member
  generalize isInput : Nat.toDigits 16 c.toNat ++ '}' :: rest = input
  obtain ⟨code, behind⟩ : input.takeWhile (· ≠ '}') = Nat.toDigits 16 c.toNat ∧
      input.dropWhile (· ≠ '}') = '}' :: rest := by
    rw [← isInput]
    exact span_append (by simpa using digits) (by simp)
  have read : readCodePoint ('{' :: input) = some (c, rest) := by
    rw [readCodePoint, if_pos rfl, behind, code, codePoint?_toDigits]
    rfl
  exact read

/-- A character is read back from its spelling. -/
theorem Spelled.readQuoted_append {c : Char} {spelling : List Char} (spelled : Spelled c spelling)
    (rest : List Char) :
    readQuoted (spelling ++ rest) = (readQuoted rest).map (readBehind c) := by
  cases spelled with
  | simple escapes =>
      apply readQuoted_of_readEscape
      simp [readEscape, escapes]
  | code =>
      apply readQuoted_of_readEscape
      simpa using readEscape_code c rest
  | plain notQuote notEscape =>
      rw [List.singleton_append, readQuoted, if_neg notQuote, if_neg notEscape]

/-- A text is read back from the spellings of its characters, up to the closing quote. -/
theorem readQuoted_spellings (text rest : List Char) :
    readQuoted (text.flatMap Text.quotedCharacter ++ '"' :: rest) = some (text, rest) := by
  induction text with
  | nil => rw [List.flatMap_nil, List.nil_append, readQuoted, if_pos rfl]
  | cons c text inductionHypothesis =>
      rw [List.flatMap_cons, List.append_assoc, (spelled_quotedCharacter c).readQuoted_append,
        inductionHypothesis]
      rfl

/-! ## Quotes in quoted literals -/

/-- The number of backslashes that a text ends with. -/
def endingBackslashes (text : List Char) : Nat :=
  (text.reverse.takeWhile (· = '\\')).length

/-- Every quote in a text is escaped: an odd number of backslashes stands right before it. -/
def QuotesEscaped (text : List Char) : Prop :=
  ∀ before after, text = before ++ '"' :: after → endingBackslashes before % 2 = 1

/-- Backslashes that escape each other do not change what is escaped behind them. -/
theorem endingBackslashes_append {front : List Char} (even : endingBackslashes front % 2 = 0)
    (text : List Char) :
    endingBackslashes (front ++ text) % 2 = endingBackslashes text % 2 := by
  unfold endingBackslashes at even ⊢
  rw [List.reverse_append, List.takeWhile_append]
  split
  · next whole =>
    rw [List.length_append, Nat.add_mod, even, whole]
    omega
  · rfl

/-- Behind an even number of backslashes, quotes stay escaped. -/
theorem QuotesEscaped.append {front text : List Char} (frontEscaped : QuotesEscaped front)
    (even : endingBackslashes front % 2 = 0) (escaped : QuotesEscaped text) :
    QuotesEscaped (front ++ text) := by
  intro before after split
  rcases List.append_eq_append_iff.1 split with ⟨more, rfl, follows⟩ | ⟨more, rfl, follows⟩
  · rw [endingBackslashes_append even]
    exact escaped more after follows
  · cases more with
    | nil => exact absurd (escaped [] after follows.symm) (by decide)
    | cons c more =>
        obtain ⟨rfl, -⟩ := List.cons.inj follows
        exact frontEscaped before more rfl

/-- All quotes of a text without quotes are escaped. -/
theorem quotesEscaped_of_notMem {text : List Char} (free : '"' ∉ text) : QuotesEscaped text := by
  rintro before after rfl
  simp at free

/-- The spelling of a character escapes its quotes and leaves no backslash open. -/
theorem Spelled.quotesEscaped {c : Char} {spelling : List Char} (spelled : Spelled c spelling) :
    QuotesEscaped spelling ∧ endingBackslashes spelling % 2 = 0 := by
  cases spelled with
  | @simple letter escapes =>
      constructor
      · intro before after split
        rcases List.cons_eq_append_iff.1 split with ⟨-, opens⟩ | ⟨more, rfl, second⟩
        · exact absurd (List.cons.inj opens).1 (by decide)
        · rcases List.singleton_eq_append_iff.1 second with ⟨rfl, -⟩ | ⟨-, none⟩
          · rfl
          · cases none
      · by_cases isEscape : letter = '\\' <;> simp [endingBackslashes, isEscape]
  | code =>
      have noDigits := notMem_toDigits (fun _ => Nat.digitChar_ne '"' rfl) c.toNat
      exact ⟨quotesEscaped_of_notMem (by simp [noDigits]), by simp [endingBackslashes]⟩
  | plain notQuote notEscape =>
      exact ⟨quotesEscaped_of_notMem (by simp [Ne.symm notQuote]),
        by simp [endingBackslashes, notEscape]⟩

/-- All quotes in the spellings of characters are escaped. -/
theorem quotesEscaped_spellings (text : List Char) :
    QuotesEscaped (text.flatMap Text.quotedCharacter) := by
  induction text with
  | nil => exact quotesEscaped_of_notMem (by simp)
  | cons c text inductionHypothesis =>
      obtain ⟨escaped, even⟩ := (spelled_quotedCharacter c).quotesEscaped
      exact escaped.append even inductionHypothesis

/-! ## Literals -/

/-- A raw literal of a text, between the shortest fences that cannot be mistaken in it. -/
structure IsRawLiteral (text : List Char) (hashes : Nat) (literal : List Char) : Prop where
  shape : literal = 'r' :: List.replicate hashes '#' ++ '"' :: text ++ closer hashes
  /-- Lengthening a fence of one hash ends with these hashes. -/
  lengthened : lengthen text 1 = hashes
  least : IsLeast {count | 1 ≤ count ∧ ¬closer count <:+: text} hashes
  /-- Behind the opening quote, the first closer is the one at the end. -/
  closes : ∀ rest, ClosedFirst hashes (text ++ closer hashes ++ rest) text rest

/-- A quoted literal: no quote in it is open. -/
def IsQuotedLiteral (literal : List Char) : Prop :=
  ∃ content, literal = '"' :: content ++ ['"'] ∧ QuotesEscaped content

/-- A text of several lines is printed as a raw literal, between the shortest fences. -/
theorem isRawLiteral_stringLiteral {text : String} (lines : '\n' ∈ text.toList) :
    IsRawLiteral text.toList (hashesBehindQuotes text.toList + 1) (stringLiteral text).toList where
  shape := by
    rw [toList_stringLiteral lines, fence, closer]
    simp
  lengthened := lengthen_eq Nat.one_pos (Nat.le_add_left 1 _)
  least := isLeast_fence text.toList
  closes := closedFirst_of_free (isLeast_fence text.toList).1.2

/-- A text of one line is printed between quotes, with its characters spelled. -/
theorem toList_stringLiteral_of_line {text : String} (oneLine : '\n' ∉ text.toList) :
    (stringLiteral text).toList = '"' :: text.toList.flatMap Text.quotedCharacter ++ ['"'] := by
  rw [stringLiteral, if_neg (by simpa using oneLine), Text.quoted, String.toList_ofList]

/-- The literal of a text is read back as the text, whatever stands behind it. -/
theorem readLiteral_stringLiteral (text : String) (rest : List Char) :
    readLiteral ((stringLiteral text).toList ++ rest) = some (text.toList, rest) := by
  by_cases lines : '\n' ∈ text.toList
  · have raw := isRawLiteral_stringLiteral lines
    have read := readRaw_of_free raw.least.1.2 rest
    simpa [raw.shape, readLiteral] using read
  · have read := readQuoted_spellings text.toList rest
    simpa [toList_stringLiteral_of_line lines, readLiteral] using read

/-- The literal of every text is read back as the text, whatever follows it. A text that spans lines
stands raw between the shortest fences that cannot be mistaken in it, which lengthening finds; any
other text stands between quotes, with every quote in it escaped. -/
theorem stringLiteral_readBack (text : String) :
    (∀ rest, readLiteral ((stringLiteral text).toList ++ rest) = some (text.toList, rest)) ∧
      ('\n' ∈ text.toList →
        ∃ hashes, IsRawLiteral text.toList hashes (stringLiteral text).toList) ∧
      ('\n' ∉ text.toList → IsQuotedLiteral (stringLiteral text).toList) := by
  refine ⟨readLiteral_stringLiteral text, fun lines => ⟨_, isRawLiteral_stringLiteral lines⟩, ?_⟩
  intro oneLine
  exact ⟨_, toList_stringLiteral_of_line oneLine, quotesEscaped_spellings text.toList⟩

/-- A quote with a hash behind it needs a fence of two; on one line it is escaped instead. -/
theorem hashedTexts_readBack :
    stringLiteral "a\n\"#b" = "r##\"a\n\"#b\"##" ∧
    (∃ hashes, IsRawLiteral "a\n\"#b".toList hashes "r##\"a\n\"#b\"##".toList) ∧
    readLiteral ("r##\"a\n\"#b\"##".toList ++ [';']) = some ("a\n\"#b".toList, [';']) ∧
    stringLiteral "\"#\\\t" = "\"\\\"#\\\\\\t\"" ∧
    IsQuotedLiteral "\"\\\"#\\\\\\t\"".toList ∧
    readLiteral ("\"\\\"#\\\\\\t\"".toList ++ [';']) = some ("\"#\\\t".toList, [';']) := by
  have rawText : stringLiteral "a\n\"#b" = "r##\"a\n\"#b\"##" := by decide +kernel
  have quotedText : stringLiteral "\"#\\\t" = "\"\\\"#\\\\\\t\"" := by decide +kernel
  obtain ⟨rawRead, raw, -⟩ := stringLiteral_readBack "a\n\"#b"
  obtain ⟨quotedRead, -, isQuoted⟩ := stringLiteral_readBack "\"#\\\t"
  rw [rawText] at rawRead raw
  rw [quotedText] at quotedRead isQuoted
  exact ⟨rawText, raw (by decide), rawRead [';'], quotedText, isQuoted (by decide),
    quotedRead [';']⟩

end Schemata.Access
