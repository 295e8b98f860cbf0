import Schemata.Sql.Identifier
import Schemata.Sql.Dialect

/-!
# Reading the text of a statement

A database reads a statement from left to right. It passes over strings between single quotes and
names between double quotes, in which a quote that is written twice stands for itself, and takes
what else starts with the mark of its style for a placeholder. Here is that reading, and what it
makes of each piece that a statement can have: names and literals are passed over whatever they
hold, and a placeholder is found as it was written, as long as no quote or digit follows it.
-/

namespace Schemata.Sql

/-! ## Reading a text -/

/--
A text in which strings and quoted names, with their quotes, are blank. The first argument is the
quote that is still open, if there is one.
-/
def outsideQuotes : Option Char → List Char → List Char
  | _, [] => []
  | none, c :: rest =>
    if c = '\'' ∨ c = '"' then ' ' :: outsideQuotes (some c) rest
    else c :: outsideQuotes none rest
  | some _, [_] => [' ']
  | some quote, c :: next :: rest =>
    if c = quote then
      if next = quote then ' ' :: ' ' :: outsideQuotes (some quote) rest
      else ' ' :: outsideQuotes none (next :: rest)
    else ' ' :: outsideQuotes (some quote) (next :: rest)

/-- The character that every placeholder of a style starts with. -/
def PlaceholderStyle.mark : PlaceholderStyle → Char
  | dollar => '$'
  | question => '?'

/-- The placeholder whose mark was just read: a dollar sign takes all digits behind it. -/
def PlaceholderStyle.readMarked : PlaceholderStyle → List Char → String
  | dollar, rest => String.ofList ('$' :: rest.takeWhile Char.isDigit)
  | question, _ => "?"

/-- All placeholders of a text without quotes, from left to right. -/
def scanPlaceholders (style : PlaceholderStyle) : List Char → List String
  | [] => []
  | c :: rest =>
    if c = style.mark then style.readMarked rest :: scanPlaceholders style rest
    else scanPlaceholders style rest

/-- The placeholders that stand in a text outside of strings and quoted names. -/
def placeholdersIn (style : PlaceholderStyle) (text : List Char) : List String :=
  scanPlaceholders style (outsideQuotes none text)

/-! ## Quoted text -/

/-- A character that opens no quote and starts no placeholder. -/
def Plain (style : PlaceholderStyle) (c : Char) : Prop :=
  c ≠ '\'' ∧ c ≠ '"' ∧ c ≠ style.mark

/-- A text that opens no quote and holds no placeholder. -/
def Quiet (style : PlaceholderStyle) (text : String) : Prop :=
  ∀ c ∈ text.toList, Plain style c

/-- What may stand behind a name, a literal or a placeholder: neither a quote nor a digit. -/
def Breaks (text : List Char) : Prop :=
  ∀ c ∈ text.head?, c ≠ '\'' ∧ c ≠ '"' ∧ c.isDigit = false

instance (style : PlaceholderStyle) (c : Char) : Decidable (Plain style c) :=
  inferInstanceAs (Decidable (c ≠ '\'' ∧ c ≠ '"' ∧ c ≠ style.mark))

instance (style : PlaceholderStyle) (text : String) : Decidable (Quiet style text) :=
  List.decidableBAll (Plain style) text.toList

instance (text : List Char) : Decidable (Breaks text) :=
  Option.decidableForallMem text.head?

/-- A class of characters without quotes and marks has plain characters only. -/
theorem plain_of_class (style : PlaceholderStyle) {inClass : Char → Bool}
    (none : ['\'', '"', '$', '?'].any inClass = false) {c : Char}
    (member : inClass c = true) : Plain style c := by
  have other : ∀ special ∈ ['\'', '"', '$', '?'], c ≠ special := by
    rintro special isSpecial rfl
    exact List.any_eq_false.1 none c isSpecial member
  refine ⟨other _ (by simp), other _ (by simp), other _ ?_⟩
  cases style <;> simp [PlaceholderStyle.mark]

/-- A text in which every quote is written twice. -/
def doubled (quote : Char) (text : List Char) : List Char :=
  text.flatMap fun c => if c = quote then [quote, quote] else [c]

/-- A literal doubles its quotes. -/
theorem doubleQuotes_eq_doubled (text : List Char) :
    Literal.doubleQuotes text = doubled '\'' text := by
  induction text with
  | nil => rfl
  | cons c rest inductionHypothesis =>
      by_cases isQuote : c = '\''
      · simp [Literal.doubleQuotes, doubled, isQuote, inductionHypothesis]
      · simp [Literal.doubleQuotes, doubled, isQuote, inductionHypothesis]

/-- Text without quotes is read as it stands. -/
theorem outsideQuotes_append {style : PlaceholderStyle} {text rest : List Char}
    (plain : ∀ c ∈ text, Plain style c) :
    outsideQuotes none (text ++ rest) = text ++ outsideQuotes none rest := by
  induction text with
  | nil => rfl
  | cons c text inductionHypothesis =>
      obtain ⟨noSingle, noDouble, -⟩ := plain c List.mem_cons_self
      have others := inductionHypothesis fun other member =>
        plain other (List.mem_cons_of_mem c member)
      simp [outsideQuotes, noSingle, noDouble, others]

/-- The closing quote is found behind text in which quotes are doubled, unless one follows it. -/
theorem outsideQuotes_doubled (quote : Char) (text : List Char) {rest : List Char}
    (ends : rest.head? ≠ some quote) :
    ∃ blanks, outsideQuotes (some quote) (doubled quote text ++ quote :: rest) =
      List.replicate blanks ' ' ++ outsideQuotes none rest := by
  induction text with
  | nil =>
      refine ⟨1, ?_⟩
      cases rest with
      | nil => simp [doubled, outsideQuotes]
      | cons next rest =>
          have other : next ≠ quote := by simpa using ends
          simp [doubled, outsideQuotes, other]
  | cons c text inductionHypothesis =>
      obtain ⟨blanks, read⟩ := inductionHypothesis
      by_cases isQuote : c = quote
      · refine ⟨blanks + 2, ?_⟩
        simp only [doubled] at read
        simp [doubled, outsideQuotes, isQuote, read, List.replicate_succ]
      · refine ⟨blanks + 1, ?_⟩
        -- The reader looks at the character behind `c` too, so the rest is opened once.
        obtain ⟨next, others, shape⟩ : ∃ next others,
            doubled quote text ++ quote :: rest = next :: others :=
          List.exists_cons_of_ne_nil (by simp)
        have step : doubled quote (c :: text) ++ quote :: rest = c :: next :: others := by
          rw [← shape]
          simp [doubled, isQuote]
        rw [step, outsideQuotes, if_neg isQuote, ← shape, read, List.replicate_succ,
          List.cons_append]

/-- Characters that start no placeholder are passed over. -/
theorem scanPlaceholders_append {style : PlaceholderStyle} {text : List Char}
    (unmarked : ∀ c ∈ text, c ≠ style.mark) (rest : List Char) :
    scanPlaceholders style (text ++ rest) = scanPlaceholders style rest := by
  induction text with
  | nil => rfl
  | cons c text inductionHypothesis =>
      have others := inductionHypothesis fun other member =>
        unmarked other (List.mem_cons_of_mem c member)
      simp [scanPlaceholders, unmarked c List.mem_cons_self, others]

/-- What stands between quotes, with its quotes doubled, is passed over. -/
theorem placeholdersIn_quoted (style : PlaceholderStyle) {quote : Char} (text : List Char)
    {rest : List Char} (isQuote : quote = '\'' ∨ quote = '"')
    (ends : rest.head? ≠ some quote) :
    placeholdersIn style (quote :: (doubled quote text ++ quote :: rest)) =
      placeholdersIn style rest := by
  obtain ⟨blanks, read⟩ := outsideQuotes_doubled quote text ends
  have unmarked : ∀ c ∈ List.replicate (blanks + 1) ' ', c ≠ style.mark := by
    intro c member
    rw [List.eq_of_mem_replicate member]
    cases style <;> decide
  rw [placeholdersIn, outsideQuotes, if_pos isQuote, read, ← List.cons_append,
    ← List.replicate_succ]
  exact scanPlaceholders_append unmarked _

/-! ## Pieces -/

/-- Words are passed over. -/
theorem placeholdersIn_words {style : PlaceholderStyle} {text : String} (quiet : Quiet style text)
    (rest : List Char) :
    placeholdersIn style (text.toList ++ rest) = placeholdersIn style rest := by
  rw [placeholdersIn, outsideQuotes_append quiet]
  exact scanPlaceholders_append (fun c member => (quiet c member).2.2) _

/-- A name that may stand bare is made of small letters, digits and underscores. -/
theorem continuesBareName_of_mem {name : String} (bare : isBareName name = true) {c : Char}
    (member : c ∈ name.toList) : continuesBareName c = true := by
  unfold isBareName at bare
  split at bare
  · cases bare
  next first rest shape =>
    rw [shape] at member
    simp only [Bool.and_eq_true, List.all_eq_true] at bare
    rcases List.mem_cons.1 member with rfl | later
    · have starts : startsBareName c = true := bare.1.1
      simp only [startsBareName, continuesBareName, Bool.or_eq_true] at starts ⊢
      exact starts.imp_left .inl
    · exact bare.1.2 c later

/-- A bare name holds no placeholder. -/
theorem quiet_of_isBareName (style : PlaceholderStyle) {name : String}
    (bare : isBareName name = true) : Quiet style name :=
  fun _ member => plain_of_class style (by decide) (continuesBareName_of_mem bare member)

/-- A name is passed over, bare or quoted. -/
theorem placeholdersIn_identifier (style : PlaceholderStyle) (name : String) {rest : List Char}
    (breaks : Breaks rest) :
    placeholdersIn style ((identifier name).toList ++ rest) = placeholdersIn style rest := by
  unfold identifier
  split
  next bare => exact placeholdersIn_words (quiet_of_isBareName style bare) rest
  next =>
    have ends : rest.head? ≠ some '"' := fun starts => (breaks '"' starts).2.1 rfl
    have passed := placeholdersIn_quoted style name.toList (.inr rfl) ends
    simpa [quotedName, doubled] using passed

/-- The text of a number consists of digits. -/
theorem isDigit_of_mem_toString {number : Nat} {c : Char}
    (member : c ∈ (toString number).toList) : c.isDigit = true := by
  rw [Nat.toString_eq_ofList_toDigits, String.toList_ofList] at member
  exact Nat.isDigit_of_mem_toDigits (by decide) (by decide) member

/-- A number holds no placeholder. -/
theorem quiet_toString (style : PlaceholderStyle) (number : Nat) : Quiet style (toString number) :=
  fun _ member => plain_of_class style (by decide) (isDigit_of_mem_toString member)

/-- A literal is passed over. -/
theorem placeholdersIn_literal (style : PlaceholderStyle) (value : Literal) {rest : List Char}
    (breaks : Breaks rest) :
    placeholdersIn style (value.sql.toList ++ rest) = placeholdersIn style rest := by
  cases value with
  | null => exact placeholdersIn_words (by cases style <;> decide) rest
  | bool value => cases value <;> exact placeholdersIn_words (by cases style <;> decide) rest
  | int value =>
      apply placeholdersIn_words
      cases value with
      | ofNat number => exact quiet_toString style number
      | negSucc number =>
          have shape : (Literal.int (Int.negSucc number)).sql = "-" ++ toString (number + 1) := rfl
          intro c member
          rw [shape, String.toList_append, List.mem_append] at member
          rcases member with sign | digit
          · exact (show Quiet style "-" by cases style <;> decide) c sign
          · exact quiet_toString style (number + 1) c digit
  | text content =>
      have ends : rest.head? ≠ some '\'' := fun starts => (breaks '\'' starts).1 rfl
      have passed := placeholdersIn_quoted style content.toList (.inl rfl) ends
      simpa [Literal.sql, doubleQuotes_eq_doubled] using passed

/-- A placeholder is found, with all its digits. -/
theorem placeholdersIn_placeholder (style : PlaceholderStyle) (number : Nat) {rest : List Char}
    (breaks : Breaks rest) :
    placeholdersIn style ((style.placeholder number).toList ++ rest) =
      style.placeholder number :: placeholdersIn style rest := by
  cases style with
  | question => simp [PlaceholderStyle.placeholder, placeholdersIn, outsideQuotes,
      scanPlaceholders, PlaceholderStyle.mark, PlaceholderStyle.readMarked]
  | dollar =>
      have quiet := quiet_toString .dollar number
      have stops : (outsideQuotes none rest).takeWhile Char.isDigit = [] := by
        cases rest with
        | nil => rfl
        | cons c rest =>
            obtain ⟨noSingle, noDouble, noDigit⟩ := breaks c rfl
            simp [outsideQuotes, noSingle, noDouble, noDigit]
      have digits : ((toString number).toList ++ outsideQuotes none rest).takeWhile Char.isDigit =
          (toString number).toList := by
        rw [List.takeWhile_append_of_pos fun c member => isDigit_of_mem_toString member, stops,
          List.append_nil]
      have text : (PlaceholderStyle.dollar.placeholder number).toList ++ rest =
          '$' :: ((toString number).toList ++ rest) := by
        simp [PlaceholderStyle.placeholder]
      have whole : String.ofList ('$' :: (toString number).toList) =
          PlaceholderStyle.dollar.placeholder number := by
        rw [← String.toList_inj]
        simp [PlaceholderStyle.placeholder]
      have found : outsideQuotes none ('$' :: ((toString number).toList ++ rest)) =
          '$' :: ((toString number).toList ++ outsideQuotes none rest) := by
        rw [outsideQuotes, if_neg (by decide), outsideQuotes_append quiet]
      rw [text, placeholdersIn, found, scanPlaceholders,
        if_pos (show '$' = PlaceholderStyle.dollar.mark from rfl), PlaceholderStyle.readMarked,
        digits, whole, scanPlaceholders_append (fun c member => (quiet c member).2.2),
        placeholdersIn]

end Schemata.Sql
