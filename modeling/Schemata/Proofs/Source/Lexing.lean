import Mathlib.Tactic.SplitIfs
import Schemata.Proofs.Scanning

/-!
# The rules of lexemes

Lexemes are read by the longest match: of all front parts of a text that a rule matches, the scanner
takes the longest one. `Rule` lists what the rules match and which lexeme they read, and `munch`
finds the longest match (`munch_reads`). A text is refused if no rule matches a front part of it, or
if the longest match is an integer that does not fit into 64 bits. Blanks and comments are passed
over; a comment goes on to the next newline or to the end, so it is the last thing before either.
-/

namespace Schemata

open Lexeme

/-! ## Rules -/

/-- The inside of a string: plain characters, and backslashes with a character behind them. -/
inductive StringBody : List Char → Prop where
  | nil : StringBody []
  | plain {c : Char} {rest : List Char} (isPlain : c ≠ '"' ∧ c ≠ '\\' ∧ c ≠ '\n')
      (others : StringBody rest) : StringBody (c :: rest)
  | escape {c : Char} {rest : List Char} (sameLine : c ≠ '\n') (others : StringBody rest) :
      StringBody ('\\' :: c :: rest)

/-- The spelling of a lexeme that has only one. -/
def Lexeme.spelling? : Lexeme → Option (List Char)
  | .newline => some ['\n']
  | .openParen => some ['(']
  | .closeParen => some [')']
  | .comma => some [',']
  | .dot => some ['.']
  | .question => some ['?']
  | .comparison op => some op.symbol.toList
  | _ => none

/-- Digits behind an optional sign. -/
def signed (negative : Bool) (digits : List Char) : List Char :=
  if negative then '-' :: digits else digits

/-- The value of digits behind an optional sign. -/
def signedValue (negative : Bool) (digits : List Char) : Int :=
  if negative then -(decimalValue digits : Int) else decimalValue digits

/--
The rules: which texts they match, and the lexeme they read from a text. An integer that does not
fit is matched, but no lexeme is read from it.
-/
inductive Rule : List Char → Option Lexeme → Prop where
  | fixed {lexeme : Lexeme} {text : List Char} (spelled : lexeme.spelling? = some text) :
      Rule text (some lexeme)
  | integer {negative : Bool} {digits : List Char} (nonempty : digits ≠ [])
      (allDigits : ∀ c ∈ digits, c.isDigit = true)
      (fits : inRange (signedValue negative digits) = true) :
      Rule (signed negative digits) (some (.integer (signedValue negative digits)))
  | overflow {negative : Bool} {digits : List Char} (nonempty : digits ≠ [])
      (allDigits : ∀ c ∈ digits, c.isDigit = true)
      (fits : inRange (signedValue negative digits) = false) :
      Rule (signed negative digits) none
  | string {inside : List Char} (body : StringBody inside) :
      Rule ('"' :: (inside ++ ['"'])) (some (.text (String.ofList (unescape inside))))
  | word {name : String} (isWord : IsWord name) : Rule name.toList (some (.ident name))

/-- A rule matches a text, and none matches a longer one that goes on into the rest. -/
structure Longest (text rest : List Char) (value : Option Lexeme) : Prop where
  rule : Rule text value
  longest : ∀ front other, front <+: text ++ rest → Rule front other →
    front.length ≤ text.length

/-- A text is refused before a rest: no rule matches there, or the longest match reads nothing. -/
structure Refused (text rest : List Char) : Prop where
  nonempty : text ≠ []
  unread : Longest text rest none ∨ ∀ front value, front <+: text ++ rest → ¬ Rule front value

/-- An integer of some digits is matched, whether it fits or not. -/
theorem rule_signed (negative : Bool) {digits : List Char} (nonempty : digits ≠ [])
    (allDigits : ∀ c ∈ digits, c.isDigit = true) (rest : List Char) :
    Rule (signed negative digits) (Munch.integer negative digits rest).lexeme := by
  cases fits : inRange (signedValue negative digits) with
  | true =>
      have read : (Munch.integer negative digits rest).lexeme =
          some (.integer (signedValue negative digits)) := if_pos fits
      rw [read]
      exact .integer nonempty allDigits fits
  | false =>
      have unread : (Munch.integer negative digits rest).lexeme = none :=
        if_neg (ne_true_of_eq_false fits)
      rw [unread]
      exact .overflow nonempty allDigits fits

/-- A string does not go on behind the end of its line. -/
theorem StringBody.ne_newline {inside : List Char} (body : StringBody inside) :
    ∀ c ∈ inside, c ≠ '\n' := by
  induction body with
  | nil => exact List.forall_mem_nil _
  | plain isPlain _ inductionHypothesis =>
      exact List.forall_mem_cons.2 ⟨isPlain.2.2, inductionHypothesis⟩
  | escape sameLine _ inductionHypothesis =>
      exact List.forall_mem_cons.2 ⟨by decide,
        List.forall_mem_cons.2 ⟨sameLine, inductionHypothesis⟩⟩

/-- A word stands on one line. -/
theorem ne_newline_of_isWord {text : String} (word : IsWord text) :
    ∀ c ∈ text.toList, c ≠ '\n' := by
  obtain ⟨starts, goesOn⟩ := word
  cases shape : text.toList with
  | nil => simp
  | cons c rest =>
      rw [shape] at starts goesOn
      refine List.forall_mem_cons.2 ⟨?_, fun other member => ?_⟩
      · exact ne_of_isNameRest (of_isNameStart starts).1 (by decide)
      · exact ne_of_isNameRest (List.all_eq_true.1 goesOn other member) (by decide)

namespace Rule

variable {text : List Char} {value : Option Lexeme} {lexeme : Lexeme}

/-- No rule matches the empty text. -/
theorem ne_nil (rule : Rule text value) : text ≠ [] := by
  rintro rfl
  generalize whole : [] = text at rule
  cases rule with
  | @fixed lexeme _ spelled =>
      cases lexeme with
      | comparison op =>
          cases op <;> cases spelled <;> cases whole
      | _ => cases spelled <;> cases whole
  | @integer negative _ nonempty _ _ | @overflow negative _ nonempty _ _ =>
      cases negative with
      | false => exact nonempty whole.symm
      | true => cases whole
  | string body => cases whole
  | word isWord =>
      obtain ⟨starts, -⟩ := isWord
      simp [← whole] at starts

/-- Only a newline is spelled with a newline. -/
theorem ne_newline (rule : Rule text (some lexeme)) (visible : lexeme ≠ .newline) :
    ∀ c ∈ text, c ≠ '\n' := by
  cases rule with
  | fixed spelled =>
      cases lexeme with
      | newline => exact absurd rfl visible
      | comparison op =>
          obtain rfl := Option.some.inj spelled
          rintro c member rfl
          revert member
          cases op <;> decide
      | integer | text | ident => cases spelled
      | _ =>
          obtain rfl := Option.some.inj spelled
          rintro c member rfl
          exact absurd member (by decide)
  | @integer negative digits _ allDigits _ =>
      have noNewline : ∀ c ∈ digits, c ≠ '\n' := by
        rintro c member rfl
        exact absurd (allDigits _ member) (by decide)
      cases negative with
      | false => exact noNewline
      | true => exact List.forall_mem_cons.2 ⟨by decide, noNewline⟩
  | string body => simpa [or_imp, forall_and] using body.ne_newline
  | word isWord => exact ne_newline_of_isWord isWord

/-- A word is spelled as it is called. -/
theorem word_eq {name : String} (rule : Rule text (some (.ident name))) :
    text = name.toList ∧ IsWord name := by
  cases rule with
  | fixed spelled => cases spelled
  | word isWord => exact ⟨rfl, isWord⟩

/-- A lexeme with one spelling is spelled so. -/
theorem fixed_eq {fixed : List Char} (rule : Rule text (some lexeme))
    (spelled : lexeme.spelling? = some fixed) : text = fixed := by
  cases rule with
  | fixed isSpelled => exact Option.some.inj (isSpelled.symm.trans spelled)
  | integer | string | word => cases spelled

end Rule

/-! ## What stands at the head of a text -/

section Heads

variable {c : Char} {rest after digits inside : List Char} {negative : Bool}

/-- Digits behind an optional sign are taken with all the digits that follow. -/
theorem munch_signed (nonempty : digits ≠ []) (allDigits : ∀ d ∈ digits, d.isDigit = true)
    (whole : c :: rest = signed negative digits ++ after) :
    munch c rest = .integer negative (digits ++ after.takeWhile Char.isDigit)
      (after.dropWhile Char.isDigit) := by
  cases negative with
  | false =>
      cases digits with
      | nil => exact absurd rfl nonempty
      | cons d digits =>
          obtain ⟨rfl, rfl⟩ : c = d ∧ rest = digits ++ after := List.cons.inj whole
          rw [List.forall_mem_cons] at allDigits
          have isWord : isNameRest c = true := by
            simp [isNameRest, Char.isAlphanum, allDigits.1]
          rw [munch_of_isNameRest isWord, if_pos allDigits.1,
            List.takeWhile_append_of_pos allDigits.2, List.dropWhile_append_of_pos allDigits.2]
          rfl
  | true =>
      obtain ⟨rfl, rfl⟩ : c = '-' ∧ rest = digits ++ after := List.cons.inj whole
      rw [munch]
      dsimp only [punctuation?]
      rw [if_neg (by decide), if_neg (by decide), if_neg (by decide), if_neg (by decide),
        if_pos rfl, List.takeWhile_append_of_pos allDigits,
        List.dropWhile_append_of_pos allDigits]
      cases digits with
      | nil => exact absurd rfl nonempty
      | cons d digits => rfl

/-- A word is taken with all that goes on with it. -/
theorem munch_word {name : String} (word : IsWord name) (whole : c :: rest = name.toList ++ after) :
    munch c rest = .name c rest ∧
      (Munch.name c rest).text = name.toList ++ after.takeWhile isNameRest := by
  obtain ⟨starts, goesOn⟩ := word
  cases shape : name.toList with
  | nil => simp [shape] at starts
  | cons d others =>
      rw [shape] at whole starts goesOn
      obtain ⟨rfl, rfl⟩ : c = d ∧ rest = others ++ after := List.cons.inj whole
      rw [List.head?_cons, Option.any_some] at starts
      rw [List.tail_cons, List.all_eq_true] at goesOn
      obtain ⟨isWord, notDigit⟩ := of_isNameStart starts
      constructor
      · rw [munch_of_isNameRest isWord, if_neg (by simp [notDigit]), if_pos starts]
      · rw [Munch.name, List.takeWhile_append_of_pos goesOn]
        rfl

/-- The inside of a string is taken up to the closing quote. -/
theorem spanString_body (body : StringBody inside) (after : List Char) :
    spanString (inside ++ '"' :: after) = (inside, '"' :: after) := by
  induction body with
  | nil => simp [spanString]
  | plain isPlain _ inductionHypothesis => simp [spanString, isPlain, inductionHypothesis]
  | escape sameLine _ inductionHypothesis => simp [spanString, sameLine, inductionHypothesis]

/-- Whatever is taken after a quote is the inside of a string. -/
theorem stringBody_spanString (text : List Char) : StringBody (spanString text).1 := by
  fun_induction spanString text with
  | case1 => exact .nil
  | case2 => exact .nil
  | case3 => exact .nil
  | case4 c rest notNewline inductionHypothesis => exact .escape notNewline inductionHypothesis
  | case5 => exact .nil
  | case6 c rest lastBackslash backslash isPlain inductionHypothesis =>
      have notBackslash : c ≠ '\\' := by
        intro isBackslash
        cases rest with
        | nil => exact lastBackslash isBackslash rfl
        | cons d rest => exact backslash d rest isBackslash rfl
      simp only [Bool.or_eq_true, decide_eq_true_eq, not_or] at isPlain
      exact .plain ⟨isPlain.1, notBackslash, isPlain.2⟩ inductionHypothesis

end Heads

/-! ## Longest matches -/

/--
What was found at the head of a text is no shorter than a match of a rule there; it is that match if
it is not longer; and if nothing is read from it, it is an integer that does not fit.
-/
structure Munch.Covers (front : List Char) (value : Option Lexeme) (found : Munch) : Prop where
  longer : front <+: found.text
  same : found.text = front → found.lexeme = value
  overflow : found.lexeme = none → Rule found.text none

namespace Munch

variable {digits : List Char} {lexeme : Lexeme}

/-- What was read covers its own text. -/
theorem covers_text (lexeme : Lexeme) (text rest : List Char) :
    (Munch.mk (some lexeme) text rest).Covers text (some lexeme) where
  longer := List.prefix_refl _
  same _ := rfl
  overflow unread := by cases unread

/-- An integer is read with all its digits, so it covers every front part of them. -/
theorem covers_integer (negative : Bool) (nonempty : digits ≠ [])
    (allDigits : ∀ d ∈ digits, d.isDigit = true) (before after : List Char) :
    (integer negative (digits ++ after.takeWhile Char.isDigit)
      (after.dropWhile Char.isDigit)).Covers
        (signed negative digits) (integer negative digits before).lexeme := by
  have shape : ∀ digits rest, (integer negative digits rest).text = signed negative digits :=
    fun _ _ => rfl
  constructor
  · rw [shape]
    cases negative <;> simp [signed]
  · intro same
    rw [shape] at same
    have none : after.takeWhile Char.isDigit = [] := by
      cases negative <;> simpa [signed] using same
    rw [none, List.append_nil]
    rfl
  · intro unread
    rw [shape, ← unread]
    apply rule_signed
    · simp [nonempty]
    · rw [List.forall_mem_append]
      exact ⟨allDigits, List.all_eq_true.1 List.all_takeWhile⟩

/-- An operator that an equals sign may follow. -/
theorem covers_withEquals (long : Comparison) (c : Char) (rest : List Char) :
    (withEquals long c rest (single lexeme c rest)).Covers [c] (some lexeme) := by
  unfold withEquals
  split
  · constructor
    · simp
    · simp
    · simp
  · exact covers_text _ _ _

end Munch

/-- What is found at the head of a text covers every match of a rule there. -/
theorem Rule.covers {front after rest : List Char} {c : Char} {value : Option Lexeme}
    (rule : Rule front value) (whole : c :: rest = front ++ after) :
    (munch c rest).Covers front value := by
  cases rule with
  | @fixed lexeme _ spelled =>
      cases lexeme with
      | comparison op =>
          cases spelled
          cases op with
          | lt | gt =>
              obtain ⟨rfl, rfl⟩ := List.cons.inj whole
              exact Munch.covers_withEquals _ _ _
          | _ =>
              cases whole
              exact Munch.covers_text _ _ _
      | integer | text | ident => cases spelled
      | _ =>
          cases spelled
          cases whole
          exact Munch.covers_text _ _ _
  | @integer negative digits nonempty allDigits fits =>
      rw [munch_signed nonempty allDigits whole]
      have read : (Munch.integer negative digits []).lexeme =
          some (.integer (signedValue negative digits)) := if_pos fits
      rw [← read]
      exact Munch.covers_integer negative nonempty allDigits [] after
  | @overflow negative digits nonempty allDigits fits =>
      rw [munch_signed nonempty allDigits whole]
      have unread : (Munch.integer negative digits []).lexeme = none :=
        if_neg (ne_true_of_eq_false fits)
      rw [← unread]
      exact Munch.covers_integer negative nonempty allDigits [] after
  | @string inside body =>
      obtain ⟨rfl, rfl⟩ : c = '"' ∧ rest = inside ++ '"' :: after := by simpa using whole
      have munched : munch '"' (inside ++ '"' :: after) = Munch.string (inside ++ '"' :: after) :=
        rfl
      rw [munched, Munch.string, spanString_body body]
      exact Munch.covers_text _ _ _
  | @word name isWord =>
      obtain ⟨munched, text⟩ := munch_word isWord whole
      rw [munched]
      constructor
      · rw [text]
        exact List.prefix_append _ _
      · intro same
        have read : (Munch.name c rest).lexeme =
            some (.ident (String.ofList (Munch.name c rest).text)) := rfl
        rw [read, same, String.ofList_toList]
      · intro unread
        cases unread

/-- A front part of a text was found: nothing is lost, and what is read from it follows a rule. -/
structure Munch.Reads (text : List Char) (found : Munch) : Prop where
  whole : text = found.text ++ found.rest
  nonempty : found.text ≠ []
  rule : ∀ lexeme, found.lexeme = some lexeme → Rule found.text (some lexeme)

namespace Munch

variable {c : Char} {rest : List Char} {lexeme : Lexeme}

/-- A character on its own is read by its rule. -/
theorem reads_single (rule : Rule [c] (some lexeme)) :
    (single lexeme c rest).Reads (c :: rest) where
  whole := rfl
  nonempty := List.cons_ne_nil _ _
  rule found isFound := by
    obtain rfl := Option.some.inj isFound
    exact rule

/-- An unreadable character is passed. -/
theorem reads_unreadable : (unreadable c rest).Reads (c :: rest) where
  whole := rfl
  nonempty := List.cons_ne_nil _ _
  rule found isFound := by cases isFound

/-- A character is read with the equals sign behind it, if there is one, and else alone. -/
theorem reads_withEquals {long : Comparison} {alone : Munch}
    (spelled : long.symbol.toList = [c, '=']) (readsAlone : alone.Reads (c :: rest)) :
    (withEquals long c rest alone).Reads (c :: rest) := by
  unfold withEquals
  split
  · constructor
    · rfl
    · exact List.cons_ne_nil _ _
    · intro found isFound
      obtain rfl := Option.some.inj isFound
      rw [← spelled]
      exact .fixed rfl
  · exact readsAlone

/-- An integer is read from its digits. -/
theorem reads_integer {negative : Bool} {digits after : List Char} (nonempty : digits ≠ [])
    (allDigits : ∀ c ∈ digits, c.isDigit = true) :
    (integer negative digits after).Reads (signed negative digits ++ after) where
  whole := rfl
  nonempty := (rule_signed negative nonempty allDigits after).ne_nil
  rule _ isFound := isFound ▸ rule_signed negative nonempty allDigits after

/-- The longest run inside a string is a front part of the text. -/
theorem spanString_append (text : List Char) :
    (spanString text).1 ++ (spanString text).2 = text := by
  fun_induction spanString text <;> simp_all

/-- A string is read up to its quote, or passed if there is none. -/
theorem reads_string : (string rest).Reads ('"' :: rest) := by
  have whole := spanString_append rest
  have body := stringBody_spanString rest
  unfold string
  split
  · next inside after spanned =>
    rw [spanned] at whole body
    constructor
    · simp [← whole]
    · exact List.cons_ne_nil _ _
    · intro found isFound
      obtain rfl := Option.some.inj isFound
      exact .string body
  · next inside after _ spanned =>
    rw [spanned] at whole
    constructor
    · exact congrArg ('"' :: ·) whole.symm
    · exact List.cons_ne_nil _ _
    · intro found isFound
      cases isFound

/-- A name is read from its first character on. -/
theorem reads_name (starts : isNameStart c = true) : (name c rest).Reads (c :: rest) where
  whole := congrArg (c :: ·) List.takeWhile_append_dropWhile.symm
  nonempty := List.cons_ne_nil _ _
  rule found isFound := by
    obtain rfl := Option.some.inj isFound
    have isWord : IsWord (String.ofList (name c rest).text) := by simp [name, IsWord, starts]
    have spelled := Rule.word isWord
    rwa [String.toList_ofList] at spelled

end Munch

/-- A character of punctuation spells its lexeme. -/
theorem rule_of_punctuation? {c : Char} {lexeme : Lexeme}
    (found : punctuation? c = some lexeme) : Rule [c] (some lexeme) := by
  unfold punctuation? at found
  split at found
  iterate 7
    obtain rfl := Option.some.inj found
    exact .fixed rfl
  cases found

/-- Whatever comes next in a text is read by a rule. -/
theorem munch_reads (c : Char) (rest : List Char) : (munch c rest).Reads (c :: rest) := by
  unfold munch
  split
  · next lexeme found => exact Munch.reads_single (rule_of_punctuation? found)
  · split_ifs with isBang isLess isGreater isQuote isMinus isDigit isWord
    · obtain rfl := isBang
      exact Munch.reads_withEquals rfl Munch.reads_unreadable
    · obtain rfl := isLess
      exact Munch.reads_withEquals rfl (Munch.reads_single (.fixed rfl))
    · obtain rfl := isGreater
      exact Munch.reads_withEquals rfl (Munch.reads_single (.fixed rfl))
    · obtain rfl := isQuote
      exact Munch.reads_string
    · obtain rfl := isMinus
      split
      · exact Munch.reads_unreadable
      · next digits nonempty =>
        have allDigits : ∀ c ∈ rest.takeWhile Char.isDigit, c.isDigit = true :=
          List.all_eq_true.1 List.all_takeWhile
        have reads := @Munch.reads_integer true _ (rest.dropWhile Char.isDigit) nonempty allDigits
        simpa [signed] using reads
    · have allDigits : ∀ d ∈ c :: rest.takeWhile Char.isDigit, d.isDigit = true :=
        List.forall_mem_cons.2 ⟨isDigit, List.all_eq_true.1 List.all_takeWhile⟩
      have reads := @Munch.reads_integer false _ (rest.dropWhile Char.isDigit)
        (List.cons_ne_nil _ _) allDigits
      simpa [signed] using reads
    · exact Munch.reads_name isWord
    · exact Munch.reads_unreadable

/-- All rules that match a text read the same from it. -/
theorem Rule.unique {text : List Char} {first second : Option Lexeme} (rule : Rule text first)
    (other : Rule text second) : first = second := by
  cases text with
  | nil => exact absurd rfl rule.ne_nil
  | cons c rest =>
      have covers := rule.covers (List.append_nil _).symm
      have otherCovers := other.covers (List.append_nil _).symm
      have isFront : (munch c rest).text <+: c :: rest := ⟨_, (munch_reads c rest).whole.symm⟩
      have whole : (munch c rest).text = c :: rest :=
        isFront.eq_of_length_le covers.longer.length_le
      rw [← covers.same whole, otherCovers.same whole]

/-- A lexeme is read from the longest match. -/
theorem longest_of_munch {c : Char} {rest : List Char} {lexeme : Lexeme}
    (read : (munch c rest).lexeme = some lexeme) :
    Longest (munch c rest).text (munch c rest).rest (some lexeme) where
  rule := (munch_reads c rest).rule lexeme read
  longest front other := by
    rw [← (munch_reads c rest).whole]
    rintro ⟨after, whole⟩ rule
    exact (rule.covers whole.symm).longer.length_le

/-- What is not read is refused. -/
theorem refused_of_munch {c : Char} {rest : List Char} (unread : (munch c rest).lexeme = none) :
    Refused (munch c rest).text (munch c rest).rest where
  nonempty := (munch_reads c rest).nonempty
  unread := by
    rw [← (munch_reads c rest).whole]
    by_cases matched : ∃ front value, front <+: c :: rest ∧ Rule front value
    · obtain ⟨front, value, ⟨after, whole⟩, rule⟩ := matched
      refine .inl ⟨(rule.covers whole.symm).overflow unread, ?_⟩
      rw [← (munch_reads c rest).whole]
      rintro other _ ⟨behind, otherWhole⟩ otherRule
      exact (otherRule.covers otherWhole.symm).longer.length_le
    · refine .inr fun front value isFront rule => ?_
      exact matched ⟨front, value, isFront, rule⟩

end Schemata
