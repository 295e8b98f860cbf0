import Schemata.Proofs.Scanning
import Schemata.Proofs.Sql.Reading

/-!
# Quoted texts and names are read back

SQL reads a string between single quotes and a name between double quotes alike: a quote that is
written twice stands for itself, and the first one that is not closes the text. A name without
quotes is a word that is taken in small letters, unless the word is reserved. Read by these rules,
every text literal and every name gives back what it was written from, whatever follows it and
cannot belong to it. So different literals and different names are written differently.
-/

namespace Schemata.Sql

/-! ## Reading by the rules of SQL -/

/-- One more character in front of what was read. -/
def readBehind (c : Char) (read : List Char × List Char) : List Char × List Char :=
  (c :: read.1, read.2)

/-- What an opened quote holds, and what follows its closing quote. -/
def readToQuote (quote : Char) : List Char → Option (List Char × List Char)
  | [] => none
  | [c] => if c = quote then some ([], []) else none
  | c :: next :: rest =>
    if c = quote then
      if next = quote then (readToQuote quote rest).map (readBehind quote)
      else some ([], next :: rest)
    else (readToQuote quote (next :: rest)).map (readBehind c)

/-- The string that a text starts with, and what follows it. -/
def readString : List Char → Option (List Char × List Char)
  | [] => none
  | c :: rest => if c = '\'' then readToQuote '\'' rest else none

/-- Whether a word may start with a character. -/
def startsWord (c : Char) : Bool :=
  c.isAlpha || c = '_'

/-- Whether a word may go on with a character. -/
def continuesWord (c : Char) : Bool :=
  c.isAlphanum || c = '_'

/-- The word that a text starts with, in small letters; a reserved word is no name. -/
def readWord (text : List Char) : Option (List Char × List Char) :=
  let word := (text.takeWhile continuesWord).map Char.toLower
  if String.ofList word ∈ reservedWords then none else some (word, text.dropWhile continuesWord)

/-- The name that a text starts with, and what follows it. -/
def readName : List Char → Option (List Char × List Char)
  | [] => none
  | c :: rest =>
    if c = '"' then readToQuote '"' rest
    else if startsWord c then readWord (c :: rest)
    else none

/-- What cannot belong to a name in front of it: it starts with neither a quote nor a word. -/
def EndsName (rest : List Char) : Prop :=
  ∀ c ∈ rest.head?, c ≠ '"' ∧ continuesWord c = false

instance (rest : List Char) : Decidable (EndsName rest) :=
  Option.decidableForallMem rest.head?

/-! ## Quoted text -/

/-- A quote is read up to its end, and two quotes in it as one, unless another quote follows. -/
theorem readToQuote_doubled (quote : Char) (text : List Char) {rest : List Char}
    (ends : rest.head? ≠ some quote) :
    readToQuote quote (doubled quote text ++ quote :: rest) = some (text, rest) := by
  induction text with
  | nil =>
      cases rest with
      | nil => simp [doubled, readToQuote]
      | cons next rest =>
          have other : next ≠ quote := by simpa using ends
          simp [doubled, readToQuote, other]
  | cons c text inductionHypothesis =>
      by_cases isQuote : c = quote
      · have step : doubled quote (c :: text) ++ quote :: rest =
            quote :: quote :: (doubled quote text ++ quote :: rest) := by
          simp [doubled, isQuote]
        rw [step, readToQuote, if_pos rfl, if_pos rfl, inductionHypothesis, isQuote]
        rfl
      · -- The reader looks at the character behind `c` too, so the rest is opened once.
        obtain ⟨next, others, shape⟩ : ∃ next others,
            doubled quote text ++ quote :: rest = next :: others :=
          List.exists_cons_of_ne_nil (by simp)
        have step : doubled quote (c :: text) ++ quote :: rest = c :: next :: others := by
          rw [← shape]
          simp [doubled, isQuote]
        rw [step, readToQuote, if_neg isQuote, ← shape, inductionHypothesis]
        rfl

/-! ## Literals -/

/-- The characters of a text literal. -/
theorem toList_sql_text (content : String) :
    (Literal.text content).sql.toList = '\'' :: (doubled '\'' content.toList ++ ['\'']) := by
  simp [Literal.sql, doubleQuotes_eq_doubled]

/-- A text literal is read back as its content, if no quote stands behind it. -/
theorem readString_sql (content : String) {rest : List Char} (ends : rest.head? ≠ some '\'') :
    readString ((Literal.text content).sql.toList ++ rest) = some (content.toList, rest) := by
  have shape : (Literal.text content).sql.toList ++ rest =
      '\'' :: (doubled '\'' content.toList ++ '\'' :: rest) := by
    rw [toList_sql_text, List.cons_append, List.append_assoc, List.singleton_append]
  rw [shape, readString, if_pos rfl]
  exact readToQuote_doubled '\'' content.toList ends

/-- Different numbers have different digits. -/
theorem toString_nat_inj {number other : Nat} (same : toString number = toString other) :
    number = other := by
  rw [Nat.toString_eq_ofList_toDigits, Nat.toString_eq_ofList_toDigits, String.ofList_inj] at same
  rw [← decimalValue_toDigits number, same, decimalValue_toDigits]

/-- The text of an integer consists of digits, behind a minus sign if it is negative. -/
theorem mem_toString_int {value : Int} {c : Char} (member : c ∈ (toString value).toList) :
    c.isDigit = true ∨ c = '-' := by
  cases value with
  | ofNat number => exact .inl (isDigit_of_mem_toString member)
  | negSucc number =>
      have shape : toString (Int.negSucc number) = "-" ++ toString (number + 1) := rfl
      rw [shape, String.toList_append, List.mem_append] at member
      rcases member with sign | digit
      · exact .inr (by simpa using sign)
      · exact .inl (isDigit_of_mem_toString digit)

/-- An integer has digits. -/
theorem toList_toString_int_ne_nil (value : Int) : (toString value).toList ≠ [] := by
  cases value with
  | ofNat number =>
      have shape : toString (Int.ofNat number) = toString number := rfl
      rw [shape, Nat.toString_eq_ofList_toDigits, String.toList_ofList]
      exact Nat.toDigits_ne_nil
  | negSucc number =>
      have shape : toString (Int.negSucc number) = "-" ++ toString (number + 1) := rfl
      rw [shape, String.toList_append]
      simp

/-- A sign does not stand at the start of digits. -/
theorem toString_nat_ne_negative (number other : Nat) :
    toString number ≠ "-" ++ toString other := by
  intro same
  have member : '-' ∈ (toString number).toList := by
    rw [same, String.toList_append]
    simp
  exact absurd (isDigit_of_mem_toString member) (by decide)

/-- Integers with the same digits and sign are equal. -/
theorem toString_int_inj {value other : Int} (same : toString value = toString other) :
    value = other := by
  cases value with
  | ofNat number =>
      cases other with
      | ofNat otherNumber => exact congrArg Int.ofNat (toString_nat_inj same)
      | negSucc otherNumber => exact absurd same (toString_nat_ne_negative _ _)
  | negSucc number =>
      cases other with
      | ofNat otherNumber => exact absurd same.symm (toString_nat_ne_negative _ _)
      | negSucc otherNumber =>
          have digits : "-" ++ toString (number + 1) = "-" ++ toString (otherNumber + 1) := same
          have numbers := toString_nat_inj (String.append_right_inj "-" |>.1 digits)
          exact congrArg Int.negSucc (Nat.succ.inj numbers)

/-- The sorts of literals; those of truth values are told apart. -/
inductive LiteralSort where
  | null
  | truth (value : Bool)
  | number
  | text

/-- The sort of a literal. -/
def literalSort : Literal → LiteralSort
  | .null => .null
  | .bool value => .truth value
  | .int _ => .number
  | .text _ => .text

/-- The sort of the literals that start with a character. -/
def sortOpenedBy (c : Char) : LiteralSort :=
  if c = '\'' then .text
  else if c.isDigit || c = '-' then .number
  else if c = 'N' then .null
  else .truth (c = 'T')

/-- The sort of a literal can be told from its first character. -/
theorem sortOpenedBy_head_sql (value : Literal) :
    value.sql.toList.head?.map sortOpenedBy = some (literalSort value) := by
  cases value with
  | null => rfl
  | bool value => cases value <;> rfl
  | text content =>
      rw [toList_sql_text]
      rfl
  | int value =>
      obtain ⟨first, others, shape⟩ : ∃ first others, (toString value).toList = first :: others :=
        List.exists_cons_of_ne_nil (toList_toString_int_ne_nil value)
      have numeral : first.isDigit = true ∨ first = '-' :=
        mem_toString_int (by rw [shape]; exact List.mem_cons_self)
      have notQuote : first ≠ '\'' := by
        rintro rfl
        revert numeral
        decide
      rw [Literal.sql, shape, List.head?_cons, Option.map_some, sortOpenedBy, if_neg notQuote,
        if_pos (by simpa using numeral)]
      rfl

/-- Literals that are written alike are equal. -/
theorem sql_inj {value other : Literal} (same : value.sql = other.sql) : value = other := by
  have sorts : literalSort value = literalSort other := by
    have told := sortOpenedBy_head_sql value
    rw [same, sortOpenedBy_head_sql other] at told
    exact (Option.some.inj told).symm
  cases value with
  | null =>
      cases other with
      | null => rfl
      | _ => cases sorts
  | bool value =>
      cases other with
      | bool other =>
          cases sorts
          rfl
      | _ => cases sorts
  | int value =>
      cases other with
      | int other => exact congrArg Literal.int (toString_int_inj same)
      | _ => cases sorts
  | text content =>
      cases other with
      | text other =>
          have ends : ([] : List Char).head? ≠ some '\'' := by simp
          have read := readString_sql content ends
          rw [same, readString_sql other ends, Option.some.injEq, Prod.mk.injEq] at read
          exact congrArg Literal.text (String.toList_inj.1 read.1).symm
      | _ => cases sorts

/-! ## Names -/

/-- A word of small letters, digits and underscores that does not start with a digit. -/
def IsSmallWord (name : String) : Prop :=
  ∃ first others, name.toList = first :: others ∧ (first.isLower = true ∨ first = '_') ∧
    ∀ c ∈ others, c.isLower = true ∨ c.isDigit = true ∨ c = '_'

/-- The names that stand bare are the small words that are not reserved. -/
theorem isBareName_iff (name : String) :
    isBareName name = true ↔ IsSmallWord name ∧ name ∉ reservedWords := by
  unfold isBareName IsSmallWord
  cases shape : name.toList with
  | nil => simp
  | cons first others =>
      simp [startsBareName, continuesBareName, and_assoc, or_assoc]

/-- A name between quotes starts with a quote. -/
theorem toList_quotedName (name : String) :
    (quotedName name).toList = '"' :: (doubled '"' name.toList ++ ['"']) := by
  simp [quotedName, doubled]

/-- What a bare name is made of belongs to a word and is small already. -/
theorem of_continuesBareName {c : Char} (goesOn : continuesBareName c = true) :
    continuesWord c = true ∧ c.toLower = c := by
  have kept : ¬ (c.val ≥ 'A'.val ∧ c.val ≤ 'Z'.val) → c.toLower = c :=
    fun notUpper => dif_neg notUpper
  rcases Bool.or_eq_true_iff.1 goesOn with alphanumeric | underscore
  · rcases Bool.or_eq_true_iff.1 alphanumeric with lower | digit
    · have letter : c.isAlphanum = true :=
        Bool.or_eq_true_iff.2 (.inl (Bool.or_eq_true_iff.2 (.inr lower)))
      have above : 'a'.val ≤ c.val := of_decide_eq_true (Bool.and_eq_true_iff.1 lower).1
      refine ⟨Bool.or_eq_true_iff.2 (.inl letter), kept fun upper => ?_⟩
      exact absurd (UInt32.le_trans above upper.2) (by decide)
    · have number : c.isAlphanum = true := Bool.or_eq_true_iff.2 (.inr digit)
      have below : c.val ≤ '9'.val := of_decide_eq_true (Bool.and_eq_true_iff.1 digit).2
      refine ⟨Bool.or_eq_true_iff.2 (.inl number), kept fun upper => ?_⟩
      exact absurd (UInt32.le_trans upper.1 below) (by decide)
  · obtain rfl := of_decide_eq_true underscore
    decide

/-- A bare name starts like a word. -/
theorem startsWord_of_isBareName {name : String} (bare : isBareName name = true) :
    ∃ first others, name.toList = first :: others ∧ first ≠ '"' ∧ startsWord first = true := by
  obtain ⟨⟨first, others, shape, starts, -⟩, -⟩ := (isBareName_iff name).1 bare
  refine ⟨first, others, shape, ?_, ?_⟩
  · rintro rfl
    revert starts
    decide
  · rcases starts with lower | rfl
    · exact Bool.or_eq_true_iff.2 (.inl (Bool.or_eq_true_iff.2 (.inr lower)))
    · decide

/-- A bare name is read back up to where it ends. -/
theorem readWord_of_isBareName {name : String} (bare : isBareName name = true) {rest : List Char}
    (ends : EndsName rest) : readWord (name.toList ++ rest) = some (name.toList, rest) := by
  have small : ∀ c ∈ name.toList, continuesWord c = true ∧ c.toLower = c :=
    fun c member => of_continuesBareName (continuesBareName_of_mem bare member)
  obtain ⟨taken, dropped⟩ := span_append (fun c member => (small c member).1)
    fun c isFirst => (ends c isFirst).2
  have folded : name.toList.map Char.toLower = name.toList :=
    (List.map_congr_left fun c member => (small c member).2).trans (List.map_id _)
  rw [readWord, taken, dropped, folded, String.ofList_toList]
  exact if_neg ((isBareName_iff name).1 bare).2

/-- A name is read as it was given, bare or quoted. -/
theorem readName_identifier (name : String) {rest : List Char} (ends : EndsName rest) :
    readName ((identifier name).toList ++ rest) = some (name.toList, rest) := by
  unfold identifier
  split
  next bare =>
    have read := readWord_of_isBareName bare ends
    obtain ⟨first, others, shape, notQuote, starts⟩ := startsWord_of_isBareName bare
    rw [shape, List.cons_append] at read ⊢
    rw [readName, if_neg notQuote, if_pos starts, read]
  next =>
    have noQuote : rest.head? ≠ some '"' := fun starts => (ends '"' starts).1 rfl
    have shape : (quotedName name).toList ++ rest =
        '"' :: (doubled '"' name.toList ++ '"' :: rest) := by
      rw [toList_quotedName, List.cons_append, List.append_assoc, List.singleton_append]
    rw [shape, readName, if_pos rfl]
    exact readToQuote_doubled '"' name.toList noQuote

/-- A name stands without quotes exactly if it may stand bare. -/
theorem identifier_unquoted_iff (name : String) :
    (identifier name).toList.head? ≠ some '"' ↔ isBareName name = true := by
  unfold identifier
  split
  next bare =>
    obtain ⟨first, others, shape, notQuote, -⟩ := startsWord_of_isBareName bare
    simp [shape, notQuote, bare]
  next quoted => simp [toList_quotedName, quoted]

/-- Names that are written alike are equal. -/
theorem identifier_inj {name other : String} (same : identifier name = identifier other) :
    name = other := by
  have ends : EndsName [] := by simp [EndsName]
  have read := readName_identifier name ends
  rw [same, readName_identifier other ends, Option.some.injEq, Prod.mk.injEq] at read
  exact (String.toList_inj.1 read.1).symm

/--
Text literals and names are read back from what is written for them, up to what follows them.
Literals that differ are written differently, and so are names. A name stands without quotes exactly
if it is a word of small letters, digits and underscores that is not reserved.
-/
theorem quoting_readBack :
    (∀ (content : String) (rest : List Char), rest.head? ≠ some '\'' →
      readString ((Literal.text content).sql.toList ++ rest) = some (content.toList, rest)) ∧
    (∀ value other : Literal, value.sql = other.sql → value = other) ∧
    (∀ (name : String) (rest : List Char), EndsName rest →
      readName ((identifier name).toList ++ rest) = some (name.toList, rest)) ∧
    (∀ name, (identifier name).toList.head? ≠ some '"' ↔
      IsSmallWord name ∧ name ∉ reservedWords) ∧
    ∀ name other, identifier name = identifier other → name = other :=
  ⟨fun content _ => readString_sql content, fun _ _ => sql_inj,
    fun name _ => readName_identifier name,
    fun name => (identifier_unquoted_iff name).trans (isBareName_iff name),
    fun _ _ => identifier_inj⟩

/-- A text that is a quoted word, a reserved name, and names that differ in their letters' size. -/
theorem quotedTexts_readBack :
    (Literal.text "'n'").sql = "'''n'''" ∧
    readString "'''n''' )".toList = some ("'n'".toList, " )".toList) ∧
    (Literal.text "1").sql ≠ (Literal.int 1).sql ∧
    identifier "order" = "\"order\"" ∧
    readName "\"order\".id".toList = some ("order".toList, ".id".toList) ∧
    ¬ (IsSmallWord "order" ∧ "order" ∉ reservedWords) ∧
    identifier "Team" ≠ identifier "team" := by
  obtain ⟨strings, literals, names, bare, apart⟩ := quoting_readBack
  refine ⟨rfl, strings "'n'" " )".toList (by decide), ?_, rfl, ?_, ?_, ?_⟩
  · exact fun same => absurd (literals _ _ same) (by decide)
  · exact names "order" ".id".toList (by decide)
  · exact fun small => (bare "order").2 small rfl
  · exact fun same => absurd (apart _ _ same) (by decide)

end Schemata.Sql
