import Schemata.Proofs.Layout.Unplaced

/-!
# Texts that are cut into given tokens

A scan takes the longest lexeme each time, so what a text is cut into depends on what comes after
it: a word goes on as long as letters, digits and underscores follow, and `<` with an equals sign
behind it is another operator. `Spells` says that a text is read as a lexeme before a given rest,
for every kind of lexeme, and `Writes` that it is cut into some lexemes before everything that ends
a word.
-/

namespace Schemata

open Lexeme

/-! ## Scans -/

/-- Before a given rest, a text is read as one lexeme, up to that rest. -/
def Spells (lexeme : Lexeme) (after : List Char) : List Char → Prop
  | [] => False
  | c :: rest => (isBlank c = false ∧ c ≠ '#' ∧ c ≠ '/') ∧
    munch c (rest ++ after) = ⟨some lexeme, c :: rest, after⟩

/-- A text without comments is cut into lexemes. -/
inductive Lexes : List Char → List Lexeme → Prop where
  | done : Lexes [] []
  | space {after : List Char} {lexemes : List Lexeme} (others : Lexes after lexemes) :
      Lexes (' ' :: after) lexemes
  | token {spelled after : List Char} {lexeme : Lexeme} {lexemes : List Lexeme}
      (spells : Spells lexeme after spelled) (others : Lexes after lexemes) :
      Lexes (spelled ++ after) (lexeme :: lexemes)

/-- A step of the scanner takes what is spelled before the rest. -/
theorem next?_of_spells {lexeme : Lexeme} {spelled after : List Char}
    (spells : Spells lexeme after spelled) (position : Position) :
    (Scanner.mk position (spelled ++ after) false).next? =
      some (.token ⟨lexeme, position, byteLength spelled⟩,
        ⟨position.advanceBy spelled, after, false⟩) := by
  cases spelled with
  | nil => exact spells.elim
  | cons c rest =>
      obtain ⟨⟨notBlank, notHash, notSlash⟩, munched⟩ := spells
      simp [Scanner.next?, skipBlanks, notBlank, notHash, notSlash, munched]

/-- A scan with enough steps finds the lexemes that a text is cut into. -/
theorem Lexes.run {text : List Char} {lexemes : List Lexeme} (lexes : Lexes text lexemes)
    (position : Position) {steps : Nat} (enough : text.length < steps) :
    ∃ list, TokenList.ofScans (Scanner.run steps ⟨position, text, false⟩) = .ok list ∧
      list.tokens.map (·.lexeme) = lexemes := by
  induction lexes generalizing position steps with
  | done =>
      cases steps with
      | zero => omega
      | succ steps => exact ⟨⟨[], position⟩, rfl, rfl⟩
  | @space after lexemes others inductionHypothesis =>
      cases steps with
      | zero => omega
      | succ steps =>
          have passed : Scanner.run (steps + 1) ⟨position, ' ' :: after, false⟩ =
              Scanner.run (steps + 1) ⟨position.advance ' ', after, false⟩ := rfl
          rw [passed]
          exact inductionHypothesis _ (Nat.lt_of_succ_lt enough)
  | @token spelled after lexeme lexemes spells others inductionHypothesis =>
      cases steps with
      | zero => omega
      | succ steps =>
          have shorter : after.length < steps := by
            cases spelled with
            | nil => exact spells.elim
            | cons c rest =>
                simp only [List.cons_append, List.length_cons, List.length_append] at enough
                omega
          obtain ⟨list, scanned, same⟩ :=
            inductionHypothesis (position.advanceBy spelled) shorter
          rw [Scanner.run, next?_of_spells spells]
          refine ⟨⟨⟨lexeme, position, byteLength spelled⟩ :: list.tokens, list.stop⟩, ?_, ?_⟩
          · simp only [TokenList.ofScans, scanned]
          · rw [List.map_cons, same]

/-- A text is cut into the tokens of its lexemes. -/
theorem Lexes.lexemes? {text : List Char} {lexemes : List Lexeme} (lexes : Lexes text lexemes) :
    lexemes? (String.ofList text) = some lexemes := by
  obtain ⟨list, scanned, same⟩ := lexes.run .start (Nat.lt_succ_self text.length)
  rw [lexemes?_ofList, Scanner.remaining, scanned]
  exact congrArg some same

/-! ## Lexemes -/

/-- A rest before which words, numbers and operators end. -/
def EndsWord (after : List Char) : Prop :=
  ∀ c ∈ after.head?, isNameRest c = false ∧ c ≠ '='

/-- A word ends before nothing. -/
theorem endsWord_nil : EndsWord [] := by
  intro c starts
  cases starts

/-- A word ends before a character that neither belongs to names nor makes an operator longer. -/
theorem endsWord_cons {c : Char} (ends : isNameRest c = false ∧ c ≠ '=') (rest : List Char) :
    EndsWord (c :: rest) := by
  intro first starts
  obtain rfl := Option.some.inj starts
  exact ends

/-- Characters that go on are taken, up to a rest that does not go on. -/
theorem span_append {goesOn : Char → Bool} {front after : List Char}
    (all : ∀ c ∈ front, goesOn c = true) (stops : ∀ c ∈ after.head?, goesOn c = false) :
    (front ++ after).takeWhile goesOn = front ∧ (front ++ after).dropWhile goesOn = after := by
  have none : after.takeWhile goesOn = [] ∧ after.dropWhile goesOn = after := by
    cases after with
    | nil => exact ⟨rfl, rfl⟩
    | cons c rest =>
        have stop := stops c rfl
        simp [stop]
  constructor
  · rw [List.takeWhile_append_of_pos all, none.1, List.append_nil]
  · rw [List.dropWhile_append_of_pos all, none.2]

/-- A character of punctuation is a lexeme of its own. -/
theorem spells_punctuation {c : Char} {lexeme : Lexeme} (found : punctuation? c = some lexeme)
    (after : List Char) : Spells lexeme after [c] := by
  refine ⟨?_, ?_⟩
  · unfold punctuation? at found
    split at found
    iterate 7 decide
    cases found
  · simp [munch, found, Munch.single]

/-- An operator is read in full. -/
theorem spells_comparison (op : Comparison) {after : List Char} (ends : EndsWord after) :
    Spells (.comparison op) after op.symbol.toList := by
  have alone : ∀ c long single,
      Munch.withEquals long c after single = single := by
    intro c long single
    cases after with
    | nil => rfl
    | cons first rest =>
        have notEquals := (ends first rfl).2
        unfold Munch.withEquals
        split
        · simp_all
        · rfl
  cases op with
  | eq => exact spells_punctuation rfl after
  | ne => exact ⟨by decide, rfl⟩
  | le => exact ⟨by decide, rfl⟩
  | ge => exact ⟨by decide, rfl⟩
  | lt => exact ⟨by decide, alone _ _ _⟩
  | gt => exact ⟨by decide, alone _ _ _⟩

/-- What words and numbers are made of is no other character. -/
theorem ne_of_isNameRest {c other : Char} (word : isNameRest c = true)
    (notWord : isNameRest other = false) : c ≠ other := by
  rintro rfl
  rw [word] at notWord
  cases notWord

/-- What words and numbers are made of is neither blank nor the start of a comment. -/
theorem visible_of_isNameRest {c : Char} (word : isNameRest c = true) :
    isBlank c = false ∧ c ≠ '#' ∧ c ≠ '/' := by
  refine ⟨?_, ne_of_isNameRest word (by decide), ne_of_isNameRest word (by decide)⟩
  simp [isBlank, ne_of_isNameRest word (show isNameRest ' ' = false by decide),
    ne_of_isNameRest word (show isNameRest '\t' = false by decide),
    ne_of_isNameRest word (show isNameRest '\x0c' = false by decide),
    ne_of_isNameRest word (show isNameRest '\r' = false by decide)]

/-- What words and numbers are made of starts no other lexeme. -/
theorem munch_of_isNameRest {c : Char} (word : isNameRest c = true) (rest : List Char) :
    munch c rest =
      if c.isDigit then
        .integer false (c :: rest.takeWhile Char.isDigit) (rest.dropWhile Char.isDigit)
      else if isNameStart c then .name c rest
      else .unreadable c rest := by
  have noPunctuation : punctuation? c = none := by
    unfold punctuation?
    split
    iterate 7 exact absurd rfl (ne_of_isNameRest word (by decide))
    rfl
  rw [munch, noPunctuation]
  dsimp only
  rw [if_neg (ne_of_isNameRest word (by decide)), if_neg (ne_of_isNameRest word (by decide)),
    if_neg (ne_of_isNameRest word (by decide)), if_neg (ne_of_isNameRest word (by decide)),
    if_neg (ne_of_isNameRest word (by decide))]

/-- A word: a letter or an underscore, and then letters, digits and underscores. -/
def IsWord (text : String) : Prop :=
  text.toList.head?.any isNameStart = true ∧ text.toList.tail.all isNameRest = true

instance (text : String) : Decidable (IsWord text) :=
  inferInstanceAs (Decidable (_ ∧ _))

/-- All letters come after the digits. -/
theorem isDigit_of_isAlpha {c : Char} (letter : c.isAlpha = true) : c.isDigit = false := by
  cases digit : c.isDigit with
  | false => rfl
  | true =>
      have below : c.val ≤ '9'.val := of_decide_eq_true (Bool.and_eq_true_iff.1 digit).2
      rcases Bool.or_eq_true_iff.1 letter with upper | lower
      · have above : 'A'.val ≤ c.val := (of_decide_eq_true upper).1
        exact absurd (UInt32.le_trans above below) (by decide)
      · have above : 'a'.val ≤ c.val := of_decide_eq_true (Bool.and_eq_true_iff.1 lower).1
        exact absurd (UInt32.le_trans above below) (by decide)

/-- A word goes on as it starts, but it does not start with a digit. -/
theorem of_isNameStart {c : Char} (starts : isNameStart c = true) :
    isNameRest c = true ∧ c.isDigit = false := by
  rcases Bool.or_eq_true_iff.1 starts with letter | underscore
  · refine ⟨?_, isDigit_of_isAlpha letter⟩
    simp [isNameRest, Char.isAlphanum, letter]
  · obtain rfl := of_decide_eq_true underscore
    decide

/-- A word is read in full. -/
theorem spells_word {name : String} (word : IsWord name) {after : List Char}
    (ends : EndsWord after) : Spells (.ident name) after name.toList := by
  obtain ⟨starts, goesOn⟩ := word
  cases shape : name.toList with
  | nil => simp [shape] at starts
  | cons c rest =>
      rw [shape, List.tail_cons, List.all_eq_true] at goesOn
      rw [shape, List.head?_cons, Option.any_some] at starts
      obtain ⟨isWord, notDigit⟩ := of_isNameStart starts
      obtain ⟨taken, dropped⟩ := span_append goesOn fun first isFirst => (ends first isFirst).1
      have whole : String.ofList (c :: rest) = name := by
        rw [← shape, String.ofList_toList]
      refine ⟨visible_of_isNameRest isWord, ?_⟩
      rw [munch_of_isNameRest isWord, if_neg (by simp [notDigit]), if_pos starts, Munch.name, taken,
        dropped, whole]

/-! ## Numbers -/

/-- Integers of 64 bits. -/
def IsInt64 (value : Int) : Prop :=
  -9223372036854775808 ≤ value ∧ value ≤ 9223372036854775807

instance (value : Int) : Decidable (IsInt64 value) :=
  inferInstanceAs (Decidable (_ ∧ _))

/-- The digits of a number have its value. -/
theorem decimalValue_toDigits (number : Nat) : decimalValue (Nat.toDigits 10 number) = number := by
  have value := Nat.ofDigitChars_ten_toDigits (n := number)
  rw [Nat.ofDigitChars_eq_foldl] at value
  exact value

/-- Digits are taken in full before what ends a word. -/
theorem span_digits {digits after : List Char} (all : ∀ c ∈ digits, c.isDigit = true)
    (ends : EndsWord after) :
    (digits ++ after).takeWhile Char.isDigit = digits ∧
      (digits ++ after).dropWhile Char.isDigit = after := by
  refine span_append all fun c isFirst => ?_
  have notWord := (ends c isFirst).1
  simp only [isNameRest, Char.isAlphanum, Bool.or_eq_false_iff] at notWord
  exact notWord.1.2

/-- Digits and a sign are an integer if its value fits. -/
theorem munch_integer {value : Int} (fits : IsInt64 value) {negative : Bool} {digits : List Char}
    (same : (if negative then -(decimalValue digits : Int) else decimalValue digits) = value)
    (after : List Char) :
    Munch.integer negative digits after =
      ⟨some (.integer value), if negative then '-' :: digits else digits, after⟩ := by
  have inRange : inRange value = true := by
    simp only [Lexeme.inRange, Bool.and_eq_true, decide_eq_true_eq]
    exact fits
  rw [Munch.integer, same, inRange]
  rfl

/-- A number is read in full. -/
theorem spells_integer {value : Int} (fits : IsInt64 value) {after : List Char}
    (ends : EndsWord after) : Spells (.integer value) after (toString value).toList := by
  have allDigits : ∀ number : Nat, ∀ c ∈ Nat.toDigits 10 number, c.isDigit = true :=
    fun number c member => Nat.isDigit_of_mem_toDigits (by decide) (by decide) member
  cases value with
  | ofNat number =>
      have text : (toString (Int.ofNat number)).toList = Nat.toDigits 10 number := by
        have shape : toString (Int.ofNat number) = toString number := rfl
        rw [shape, Nat.toString_eq_ofList_toDigits, String.toList_ofList]
      have value := decimalValue_toDigits number
      have digits := allDigits number
      rw [text]
      cases shape : Nat.toDigits 10 number with
      | nil => exact absurd shape Nat.toDigits_ne_nil
      | cons c rest =>
          rw [shape] at value digits
          have isDigit : c.isDigit = true := digits c List.mem_cons_self
          have isWord : isNameRest c = true := by
            simp [isNameRest, Char.isAlphanum, isDigit]
          obtain ⟨taken, dropped⟩ :=
            span_digits (fun d member => digits d (List.mem_cons_of_mem c member)) ends
          refine ⟨visible_of_isNameRest isWord, ?_⟩
          rw [munch_of_isNameRest isWord, if_pos isDigit, taken, dropped]
          refine munch_integer fits ?_ after
          rw [if_neg (by decide), value]
          rfl
  | negSucc number =>
      have text : (toString (Int.negSucc number)).toList = '-' :: Nat.toDigits 10 (number + 1) := by
        have shape : toString (Int.negSucc number) = "-" ++ toString (number + 1) := rfl
        rw [shape, String.toList_append, Nat.toString_eq_ofList_toDigits, String.toList_ofList,
          String.toList_ofList]
        rfl
      obtain ⟨taken, dropped⟩ := span_digits (allDigits (number + 1)) ends
      have value := decimalValue_toDigits (number + 1)
      rw [text]
      refine ⟨by decide, ?_⟩
      cases shape : Nat.toDigits 10 (number + 1) with
      | nil => exact absurd shape Nat.toDigits_ne_nil
      | cons c rest =>
          rw [shape] at taken dropped value
          rw [munch]
          dsimp only [punctuation?]
          rw [if_neg (by decide), if_neg (by decide), if_neg (by decide), if_neg (by decide),
            if_pos rfl, taken, dropped]
          refine munch_integer fits ?_ after
          rw [if_pos rfl, value]
          rfl

/-! ## Strings -/

/-- A character of a string as it is written: backslashes, quotes and newlines are escaped. -/
def escapeCharacter (c : Char) : List Char :=
  if c = '\\' then ['\\', '\\']
  else if c = '"' then ['\\', '"']
  else if c = '\n' then ['\\', 'n']
  else [c]

/-- The inside of a string as it is written. -/
def escape (content : List Char) : List Char :=
  content.flatMap escapeCharacter

/-- A written character stands inside a string. -/
theorem spanString_escapeCharacter (c : Char) (rest : List Char) :
    spanString (escapeCharacter c ++ rest) =
      (escapeCharacter c ++ (spanString rest).1, (spanString rest).2) := by
  unfold escapeCharacter
  split
  · simp [spanString]
  · split
    · simp [spanString]
    · split
      · simp [spanString]
      · next notBackslash notQuote notNewline =>
        simp [spanString, notBackslash, notQuote, notNewline]

/-- A written character stands for the character again. -/
theorem unescape_escapeCharacter (c : Char) (rest : List Char) :
    unescape (escapeCharacter c ++ rest) = c :: unescape rest := by
  unfold escapeCharacter
  split
  · next isBackslash => simp [unescape, isBackslash]
  · split
    · next isQuote => simp [unescape, isQuote]
    · split
      · next isNewline => simp [unescape, isNewline]
      · next notBackslash notQuote notNewline => simp [unescape, notBackslash]

/-- All that is written stands inside the string, up to the closing quote. -/
theorem spanString_escape (content after : List Char) :
    spanString (escape content ++ '"' :: after) = (escape content, '"' :: after) := by
  induction content with
  | nil => simp [escape, spanString]
  | cons c content inductionHypothesis =>
      have shape : escape (c :: content) = escapeCharacter c ++ escape content := rfl
      rw [shape, List.append_assoc, spanString_escapeCharacter, inductionHypothesis]

/-- What is written stands for the string again. -/
theorem unescape_escape (content : List Char) : unescape (escape content) = content := by
  induction content with
  | nil => rfl
  | cons c content inductionHypothesis =>
      have shape : escape (c :: content) = escapeCharacter c ++ escape content := rfl
      rw [shape, unescape_escapeCharacter, inductionHypothesis]

/-- A string is read in full, whatever it contains. -/
theorem spells_text (content : String) (after : List Char) :
    Spells (.text content) after ('"' :: (escape content.toList ++ ['"'])) := by
  refine ⟨by decide, ?_⟩
  have inside := spanString_escape content.toList after
  have munched : munch '"' (escape content.toList ++ ['"'] ++ after) =
      Munch.string (escape content.toList ++ '"' :: after) := by
    rw [List.append_assoc]
    rfl
  rw [munched, Munch.string, inside]
  simp [unescape_escape]

/-! ## Texts before what ends a word -/

/-- Before everything that ends a word, a text is cut into some lexemes. -/
def Writes (text : List Char) (lexemes : List Lexeme) : Prop :=
  ∀ after others, EndsWord after → Lexes after others →
    Lexes (text ++ after) (lexemes ++ others)

/-- A word ends before a text and what stands behind it, if it ends before both. -/
theorem EndsWord.append {text after : List Char} (ends : EndsWord text)
    (endsAfter : EndsWord after) : EndsWord (text ++ after) := by
  cases text with
  | nil => exact endsAfter
  | cons c rest => exact endsWord_cons (ends c rfl) (rest ++ after)

namespace Writes

variable {text more : List Char} {lexemes moreLexemes : List Lexeme} {lexeme : Lexeme} {c : Char}

/-- The empty text has no lexemes. -/
theorem nil : Writes [] [] :=
  fun _ _ _ lexes => lexes

/-- A text that spells a lexeme before whatever ends a word is cut into that lexeme. -/
theorem of_spells (spells : ∀ after, EndsWord after → Spells lexeme after text) :
    Writes text [lexeme] :=
  fun after _ ends lexes => .token (spells after ends) lexes

/-- A word is cut into its own identifier. -/
theorem word {name : String} (isWord : IsWord name) : Writes name.toList [.ident name] :=
  .of_spells fun _ ends => spells_word isWord ends

/-- A space in front means nothing. -/
theorem space (writes : Writes text lexemes) : Writes (' ' :: text) lexemes :=
  fun after others ends lexes => .space (writes after others ends lexes)

/-- Punctuation in front is a lexeme, whatever comes after it. -/
theorem punctuation (found : punctuation? c = some lexeme) (writes : Writes text lexemes) :
    Writes (c :: text) (lexeme :: lexemes) := by
  intro after others ends lexes
  have spells : Spells lexeme (text ++ after) [c] := spells_punctuation found (text ++ after)
  have lexed := Lexes.token spells (writes after others ends lexes)
  exact lexed

/-- One text after another, if words end between them. -/
theorem append (first : Writes text lexemes) (second : Writes more moreLexemes)
    (between : EndsWord more) : Writes (text ++ more) (lexemes ++ moreLexemes) := by
  intro after others ends lexes
  rw [List.append_assoc, List.append_assoc]
  exact first _ _ (between.append ends) (second after others ends lexes)

/-- A whole text is cut into its lexemes. -/
theorem lexes (writes : Writes text lexemes) : Lexes text lexemes := by
  have whole := writes [] [] endsWord_nil .done
  rwa [List.append_nil, List.append_nil] at whole

end Writes

end Schemata
