import Schemata.Proofs.Access.Naming
import Schemata.Proofs.Access.StructNames
import Schemata.Proofs.Sql.Reading

/-!
# Names that the language takes

An identifier is a word other than a single underscore. A word of the language can be one behind a
raw mark only. Names are made safe for this, but not against every word of the language: the list of
`keywords` has those in use and some of those that are reserved. What is left out of it is
`unguardedWords`, and one word in capitals that only the name of a struct can be.
-/

namespace Schemata.Access

open Lexeme

/-- The reserved words of the language that names are not made safe against. -/
def unguardedWords : List String :=
  ["abstract", "become", "do", "final", "macro", "override", "priv", "typeof", "unsized", "virtual"]

/-- All words of the language, in use or reserved. -/
def languageWords : List String :=
  keywords ++ pathWords ++ "Self" :: unguardedWords

/-- A name that the language takes. -/
@[mk_iff]
inductive IsIdentifier : String → Prop where
  | plain {name : String} (isWord : IsWord name) (named : name ≠ "_")
      (free : name ∉ languageWords) : IsIdentifier name
  | raw {name : String} (isWord : IsWord name) (named : name ≠ "_")
      (allowed : name ∉ "Self" :: pathWords) : IsIdentifier ("r#" ++ name)

/-- A plain text that starts like a name is a word. -/
theorem isWord_of_starts {text : String} {c : Char} {rest : List Char}
    (shape : text.toList = c :: rest) (starts : isNameStart c = true) (plain : Text.IsPlain text) :
    IsWord text := by
  rw [Text.IsPlain, shape] at plain
  rw [IsWord, shape]
  exact ⟨by simpa using starts, List.all_eq_true.2 (List.forall_mem_cons.1 plain).2⟩

/-- Without a raw mark, an identifier is a word that is none of the language. -/
theorem isIdentifier_iff_of_plain {name : String} (plain : Text.IsPlain name) :
    IsIdentifier name ↔ IsWord name ∧ name ≠ "_" ∧ name ∉ languageWords := by
  rw [isIdentifier_iff]
  constructor
  · rintro (isPlain | ⟨other, -, -, -, rfl⟩)
    · exact isPlain
    · exact absurd (plain '#' (by simp)) (by decide)
  · exact .inl

/-! ## Names with numbers -/

/-- No word of the language has an underscore. -/
theorem notMem_of_underscore {name : String} (underscore : '_' ∈ name.toList) :
    name ∉ languageWords := by
  have none : ∀ word ∈ languageWords, '_' ∉ word.toList := by decide +kernel
  intro isWord
  exact none name isWord underscore

/-- The digits of a number are plain. -/
theorem isPlain_toString (number : Nat) : Text.IsPlain (toString number) := by
  intro c member
  simp [isNameRest, Char.isAlphanum, Sql.isDigit_of_mem_toString member]

/-- A word with a number behind it is a word, and not the underscore alone. -/
theorem isWord_numbered {base : String} (isWord : IsWord base) (number : Nat) :
    IsWord (numbered base number) ∧ numbered base number ≠ "_" := by
  have plain : Text.IsPlain (numbered base number) := Text.isPlain_append.2
    ⟨Text.isPlain_append.2 ⟨Text.isPlain_of_isWord isWord, by decide⟩, isPlain_toString number⟩
  have starts := isWord.1
  cases shape : base.toList with
  | nil => simp [shape] at starts
  | cons c rest =>
      have whole : (numbered base number).toList =
          c :: (rest ++ '_' :: (toString number).toList) := by simp [numbered, shape]
      refine ⟨isWord_of_starts whole (by simpa [shape] using starts) plain, ?_⟩
      rintro same
      simp [same] at whole

/-- An identifier stays one with a number behind it. -/
theorem IsIdentifier.numbered {base : String} (identifier : IsIdentifier base) (number : Nat) :
    IsIdentifier (numbered base number) := by
  cases identifier with
  | plain isWord named free =>
      obtain ⟨isNumberedWord, notWild⟩ := isWord_numbered isWord number
      exact .plain isNumberedWord notWild (notMem_of_underscore (by simp [Access.numbered]))
  | @raw name isWord named allowed =>
      have marked :
          Access.numbered ("r#" ++ name) number = "r#" ++ Access.numbered name number := by
        simp [Access.numbered, String.append_assoc]
      obtain ⟨isNumberedWord, notWild⟩ := isWord_numbered isWord number
      have free : Access.numbered name number ∉ languageWords :=
        notMem_of_underscore (by simp [Access.numbered])
      rw [marked]
      refine .raw isNumberedWord notWild fun notAllowed => free ?_
      rcases List.mem_cons.1 notAllowed with isSelf | isPath
      · rw [isSelf]
        decide
      · exact List.mem_append_left _ (List.mem_append_right _ isPath)

/-- All names of a scope are identifiers exactly if all bases are. -/
theorem isIdentifier_claimNames_iff {used bases : List String}
    (earlier : ∀ name ∈ used, IsIdentifier name) :
    (∀ name ∈ claimNames used bases, IsIdentifier name) ↔ ∀ base ∈ bases, IsIdentifier base := by
  constructor
  · intro names base member
    by_cases taken : base ∈ used
    · exact earlier base taken
    · exact names base (mem_claimNames_of_mem member taken)
  · intro identifiers name claimed
    obtain ⟨base, member, rfl | ⟨number, rfl⟩⟩ := exists_base_of_mem_claimNames claimed
    · exact identifiers name member
    · exact (identifiers base member).numbered number

/-! ## Safe names -/

/-- A single underscore is no name. -/
theorem not_isIdentifier_wild : ¬ IsIdentifier "_" := by
  rw [isIdentifier_iff_of_plain (by decide)]
  simp

/-- A name in small letters that is no keyword can still be one of the words left out. -/
theorem isIdentifier_small_iff {small : String}
    (characters : ∀ c ∈ small.toList, isNameRest c = true ∧ Text.isCapital c = false) {c : Char}
    {rest : List Char} (shape : small.toList = c :: rest) (letter : c.isAlpha = true)
    (notPath : small ∉ pathWords) (notKeyword : small ∉ keywords) :
    IsIdentifier small ↔ small ∉ unguardedWords := by
  have plain : Text.IsPlain small := fun c member => (characters c member).1
  have notSelf : small ≠ "Self" := by
    rintro rfl
    exact absurd (characters 'S' (by simp)).2 (by decide)
  have notWild : small ≠ "_" := by
    rintro rfl
    obtain rfl : '_' = c := (List.cons.inj shape).1
    exact absurd letter (by decide)
  have isWord := isWord_of_starts shape (Bool.or_eq_true_iff.2 (.inl letter)) plain
  rw [isIdentifier_iff_of_plain plain]
  simp [languageWords, isWord, notWild, notSelf, notPath, notKeyword]

section SafeNames

variable {name : String} (plain : Text.IsPlain name)

include plain

/-- A name is made safe unless it has no letters and digits, or is one of the words left out. -/
theorem isIdentifier_safeName_iff :
    IsIdentifier (safeName name) ↔
      Text.snakeCase name ≠ "" ∧ Text.snakeCase name ∉ unguardedWords := by
  have characters := Text.of_mem_snakeCase plain
  have starts : ∀ c rest, (Text.snakeCase name).toList = c :: rest → c.isAlphanum = true :=
    fun _ _ => Text.isAlphanum_of_starts plain
  unfold safeName
  generalize Text.snakeCase name = small at characters starts ⊢
  have smallPlain : Text.IsPlain small := fun c member => (characters c member).1
  dsimp only
  by_cases empty : small = ""
  · rw [empty]
    simpa using not_isIdentifier_wild
  obtain ⟨c, rest, shape⟩ := List.exists_cons_of_ne_nil fun none =>
    empty (String.toList_injective none)
  by_cases path : small ∈ pathWords
  · have safe : ∀ word ∈ pathWords, (IsWord (word ++ "_") ∧ word ++ "_" ≠ "_" ∧
        word ++ "_" ∉ languageWords) ∧ word ∉ unguardedWords := by decide +kernel
    obtain ⟨⟨isWord, named, free⟩, notUnguarded⟩ := safe small path
    rw [if_pos (by simp [path])]
    exact iff_of_true (.plain isWord named free) ⟨empty, notUnguarded⟩
  rw [if_neg (by simp [empty, path])]
  by_cases keyword : small ∈ keywords
  · have safe : ∀ word ∈ keywords, IsWord word ∧ word ≠ "_" ∧ word ∉ "Self" :: pathWords ∧
        word ∉ unguardedWords := by decide +kernel
    obtain ⟨isWord, named, allowed, notUnguarded⟩ := safe small keyword
    rw [if_pos (by simpa using keyword)]
    exact iff_of_true (.raw isWord named allowed) ⟨empty, notUnguarded⟩
  rw [if_neg (by simpa using keyword)]
  cases digit : startsWithDigit small with
  | true =>
      have letters : ∀ word ∈ unguardedWords, startsWithDigit word = false := by decide
      have notUnguarded : small ∉ unguardedWords := fun unguarded => by
        simp [letters small unguarded] at digit
      have whole : ("_" ++ small).toList = '_' :: small.toList := by simp
      have isWord := isWord_of_starts whole (by decide)
        (Text.isPlain_append.2 ⟨by decide, smallPlain⟩)
      have named : "_" ++ small ≠ "_" := by simpa using empty
      exact iff_of_true (.plain isWord named (notMem_of_underscore (by simp)))
        ⟨empty, notUnguarded⟩
  | false =>
      rw [if_neg Bool.false_ne_true]
      have letter : c.isAlpha = true := by
        have notDigit : c.isDigit = false := by simpa [startsWithDigit, shape] using digit
        simpa [Char.isAlphanum, notDigit] using starts c rest shape
      rw [isIdentifier_small_iff characters shape letter path keyword]
      simp [empty]

/-! ## Names of structs -/

omit plain in
/-- Without digits, no underscore stands before a digit. -/
theorem joinDigits_of_noDigits {text : List Char} (noDigits : ∀ c ∈ text, c.isDigit = false) :
    Text.joinDigits text = text := by
  induction text with
  | nil => rfl
  | cons c rest inductionHypothesis =>
      have others := (List.forall_mem_cons.1 noDigits).2
      have notBefore : rest.head?.any Char.isDigit = false := by
        cases rest with
        | nil => rfl
        | cons next rest => simpa using others next List.mem_cons_self
      rw [Text.joinDigits, if_neg (by simp [notBefore]), inductionHypothesis others]

omit plain in
/-- Only underscores are dropped. -/
theorem mem_joinDigits {text : List Char} {c : Char} (member : c ∈ text) (other : c ≠ '_') :
    c ∈ Text.joinDigits text := by
  induction text with
  | nil => cases member
  | cons first rest inductionHypothesis =>
      rw [Text.joinDigits]
      rcases List.mem_cons.1 member with rfl | later
      · rw [if_neg (by simp [other])]
        exact List.mem_cons_self
      · split
        · exact inductionHypothesis later
        · exact List.mem_cons_of_mem _ (inductionHypothesis later)

/-- Only a model with that name in small letters has the word in capitals for its struct. -/
theorem structName_eq_self_iff : structName name = "Self" ↔ Text.snakeCase name = "self" := by
  have isSelf : Text.upperCamelCase "self" = "Self" := by decide +kernel
  have joined : Text.joinedName "self" = "self" := by decide +kernel
  rw [structName, ← isSelf, Text.upperCamelCase_eq_iff plain (by decide), joined, Text.joinedName]
  constructor
  · intro same
    have small : Text.joinDigits (Text.snakeCase name).toList = "self".toList := by
      rw [← same, String.toList_ofList]
    have noDigits : ∀ c ∈ (Text.snakeCase name).toList, c.isDigit = false := by
      intro c member
      by_cases underscore : c = '_'
      · rw [underscore]
        decide
      · have kept := mem_joinDigits member underscore
        have letters : "self".toList.all (fun c => !c.isDigit) = true := by decide
        rw [small] at kept
        simpa using List.all_eq_true.1 letters c kept
    rw [joinDigits_of_noDigits noDigits] at small
    exact String.toList_injective small
  · rintro same
    rw [same]
    decide

omit plain in
/-- Only one word of the language starts with a capital. -/
theorem of_capitalised {text : String} {word rest : List Char} (plainWord : Text.IsPlainWord word)
    (shape : text.toList = Text.capitalisedWord word ++ rest)
    (letter : word.head?.any Char.isDigit = false) (plain : Text.IsPlain text) :
    IsWord text ∧ text ≠ "_" ∧ (text ∈ languageWords ↔ text = "Self") := by
  obtain ⟨c, others, rfl, styled, -, capitalised⟩ := plainWord.exists_shape
  have isCapital := (styled.letter (by simpa using letter)).1
  rw [capitalised, List.cons_append] at shape
  have capitals : ∀ word ∈ "_" :: languageWords, word.toList.head?.any Char.isUpper = true →
      word = "Self" := by decide +kernel
  have isSelf (member : text ∈ "_" :: languageWords) : text = "Self" :=
    capitals text member (by simpa [shape] using isCapital)
  have isAlpha : c.toUpper.isAlpha = true := Bool.or_eq_true_iff.2 (.inl isCapital)
  have isWord := isWord_of_starts shape (Bool.or_eq_true_iff.2 (.inl isAlpha)) plain
  refine ⟨isWord, ?_, fun isWord => isSelf (List.mem_cons_of_mem _ isWord), ?_⟩
  · rintro rfl
    exact absurd (isSelf List.mem_cons_self) (by decide)
  · rintro rfl
    decide

/-- The name of a struct is plain. -/
theorem isPlain_structName : Text.IsPlain (structName name) := by
  intro c member
  rw [structName, Text.toList_upperCamelCase] at member
  obtain ⟨word, isWord, inWord⟩ := List.mem_flatMap.1 member
  exact (Text.plain_of_mem_words plain isWord).capitalised c inWord

/-- A name in small letters starts as its first word does. -/
theorem starts_snakeCase {word : List Char} {others : List (List Char)}
    (shape : Text.words name = word :: others) :
    Text.snakeCase name ≠ "" ∧
      startsWithDigit (Text.snakeCase name) = word.head?.any Char.isDigit := by
  have plainWord := Text.plain_of_mem_words plain (shape ▸ List.mem_cons_self)
  obtain ⟨c, rest, rfl, styled, small, -⟩ := plainWord.exists_shape
  have starts : ∃ more, (Text.snakeCase name).toList = c.toLower :: more := by
    rw [Text.toList_snakeCase, shape, List.map_cons, Text.intercalate_cons, small]
    exact ⟨_, List.cons_append⟩
  obtain ⟨more, starts⟩ := starts
  constructor
  · intro empty
    simp [empty] at starts
  · rw [startsWithDigit, starts]
    exact styled.isDigit_toLower

/--
The name of a struct is an identifier unless its model has no letters and digits in its name, starts
with a digit, or has the one name that is a word of the language in capitals.
-/
theorem isIdentifier_structName_iff :
    IsIdentifier (structName name) ↔
      Text.snakeCase name ≠ "" ∧ startsWithDigit (Text.snakeCase name) = false ∧
        Text.snakeCase name ≠ "self" := by
  have camelPlain := isPlain_structName plain
  rw [isIdentifier_iff_of_plain camelPlain, ne_eq (Text.snakeCase name) "self",
    ← structName_eq_self_iff plain]
  cases shape : Text.words name with
  | nil =>
      have noName : structName name = "" := by
        rw [structName, Text.upperCamelCase, shape]
        rfl
      have noSmall : Text.snakeCase name = "" := by
        rw [Text.snakeCase, shape]
        rfl
      simp [noName, noSmall, IsWord]
  | cons word others =>
      obtain ⟨some, sameDigit⟩ := starts_snakeCase plain shape
      have plainWord := Text.plain_of_mem_words plain (shape ▸ List.mem_cons_self)
      have capital : (structName name).toList =
          Text.capitalisedWord word ++ others.flatMap Text.capitalisedWord := by
        rw [structName, Text.toList_upperCamelCase, shape, List.flatMap_cons]
      cases digit : word.head?.any Char.isDigit with
      | true =>
          have noWord : ¬ IsWord (structName name) := by
            obtain ⟨c, rest, rfl, styled, -, capitalised⟩ := plainWord.exists_shape
            have isDigit : c.isDigit = true := by simpa using digit
            rintro ⟨starts, -⟩
            rw [capital, capitalised, (styled.digit isDigit).1] at starts
            exact absurd isDigit (by simp [(of_isNameStart starts).2])
          simp [noWord, sameDigit, digit]
      | false =>
          obtain ⟨isWord, notWild, onlySelf⟩ := of_capitalised plainWord capital digit camelPlain
          simp [isWord, notWild, onlySelf, some, sameDigit, digit]

end SafeNames

end Schemata.Access
