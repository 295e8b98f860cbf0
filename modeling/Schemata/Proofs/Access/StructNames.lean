import Schemata.Access.Naming
import Schemata.Proofs.Declaration.Words
import Schemata.Proofs.Text.Cases

/-!
# The names of the structs of models

Two models may not have one name in small letters, since their structs should not have one name. A
struct is named in capitals and without underscores, though. The capitals tell where the words of a
name start, but a word that starts with a digit has none. So what the name of a struct keeps of the
name of its model is the name in small letters without the underscores before digits, and exactly
that (`upperCamelCase_eq_iff`): `part1` and `part_1` have different names in small letters, and one
struct.
-/

namespace Schemata

namespace Text

/-! ## From small letters to capitals -/

/-- A text without the underscores that stand before digits. -/
def joinDigits : List Char → List Char
  | [] => []
  | c :: rest =>
    if c = '_' && rest.head?.any Char.isDigit then joinDigits rest else c :: joinDigits rest

/-- A name in small letters without the underscores that stand before digits. -/
def joinedName (name : String) : String :=
  String.ofList (joinDigits (snakeCase name).toList)

/-- A text with capitals in place of its underscores, and at its start if asked for. -/
def raise (start : Bool) : List Char → List Char
  | [] => []
  | c :: rest =>
    if c = '_' then raise true rest else (if start then c.toUpper else c) :: raise false rest

/-- A text with underscores and small letters in place of its capitals. -/
def lower (text : List Char) : List Char :=
  text.flatMap fun c => if c.isUpper then ['_', c.toLower] else [c]

/-- A text without an underscore at its start. -/
def dropMark : List Char → List Char
  | [] => []
  | c :: rest => if c = '_' then rest else c :: rest

/-- A word in small letters, behind an underscore if it starts with a letter. -/
def markedWord (word : List Char) : List Char :=
  if word.head?.any Char.isDigit then smallWord word else '_' :: smallWord word

section Words

variable {word rest : List Char}

/-- A plain word has no underscore. -/
theorem IsPlainWord.ne_underscore (plain : IsPlainWord word) : ∀ c ∈ word, c ≠ '_' := by
  rintro _ member rfl
  exact absurd (plain.alphanumeric _ member) (by decide)

/-- Digits are joined behind a word without underscores as they are on their own. -/
theorem joinDigits_append (free : ∀ c ∈ word, c ≠ '_') :
    joinDigits (word ++ rest) = word ++ joinDigits rest := by
  induction word with
  | nil => rfl
  | cons c word inductionHypothesis =>
      obtain ⟨first, others⟩ := List.forall_mem_cons.1 free
      rw [List.cons_append, joinDigits, if_neg (by simp [first]), inductionHypothesis others,
        List.cons_append]

/-- A word without underscores stays as it is, behind no underscore. -/
theorem raise_append (free : ∀ c ∈ word, c ≠ '_') :
    raise false (word ++ rest) = word ++ raise false rest := by
  induction word with
  | nil => rfl
  | cons c word inductionHypothesis =>
      obtain ⟨first, others⟩ := List.forall_mem_cons.1 free
      rw [List.cons_append, raise, if_neg first, inductionHypothesis others, List.cons_append]
      rfl

/-- The first character of a word, with the rest in small letters. -/
theorem IsPlainWord.exists_shape (plain : IsPlainWord word) :
    ∃ c others, word = c :: others ∧ Styled c ∧ smallWord word = c.toLower :: smallWord others ∧
      capitalisedWord word = c.toUpper :: smallWord others := by
  obtain ⟨c, others, rfl⟩ := List.exists_cons_of_ne_nil plain.nonempty
  obtain ⟨first, rest⟩ := List.forall_mem_cons.1 plain.alphanumeric
  refine ⟨c, others, rfl, styled_of_isAlphanum first, ?_, rfl⟩
  rw [smallWord_of_plain plain.alphanumeric, smallWord_of_plain rest]
  rfl

/-- A plain word with a capital in front can be part of a name. -/
theorem IsPlainWord.capitalised (plain : IsPlainWord word) :
    ∀ c ∈ capitalisedWord word, Lexeme.isNameRest c = true := by
  obtain ⟨c, others, rfl, styled, small, capitalised⟩ := plain.exists_shape
  have alphanumeric := List.forall_mem_cons.1 (small ▸ plain.small.1.alphanumeric)
  rw [capitalised]
  intro other member
  refine Bool.or_eq_true_iff.2 (.inl ?_)
  rcases List.mem_cons.1 member with rfl | later
  · exact styled.isAlphanum_toUpper
  · exact alphanumeric.2 other later

/-- A word in small letters starts with a digit if the word does. -/
theorem IsPlainWord.head?_smallWord (plain : IsPlainWord word) :
    (smallWord word ++ rest).head?.any Char.isDigit = word.head?.any Char.isDigit := by
  obtain ⟨c, others, rfl, styled, small, -⟩ := plain.exists_shape
  rw [small]
  simpa using styled.isDigit_toLower

/-- A small word is capitalised behind an underscore. -/
theorem raise_smallWord (plain : IsPlainWord word) :
    raise true (smallWord word ++ rest) = capitalisedWord word ++ raise false rest := by
  obtain ⟨c, others, rfl, styled, small, capitalised⟩ := plain.exists_shape
  have free := List.forall_mem_cons.1 (small ▸ plain.small.1.ne_underscore)
  rw [small, capitalised, List.cons_append, raise, if_neg free.1, if_pos rfl,
    styled.toUpper_toLower, raise_append free.2, List.cons_append]

/-- A marked word loses its mark and is capitalised. -/
theorem raise_markedWord (plain : IsPlainWord word) :
    raise false (markedWord word ++ rest) = capitalisedWord word ++ raise false rest := by
  cases digit : word.head?.any Char.isDigit with
  | false =>
      rw [markedWord, digit, if_neg (by decide), List.cons_append, raise, if_pos rfl,
        raise_smallWord plain]
  | true =>
      obtain ⟨c, others, rfl, styled, small, capitalised⟩ := plain.exists_shape
      obtain ⟨upper, lower, -⟩ := styled.digit (by simpa using digit)
      rw [markedWord, digit, if_pos rfl, raise_append plain.small.1.ne_underscore, small,
        capitalised, upper, lower]

/-- A small word has no capitals to lower. -/
theorem lower_smallWord (alphanumeric : ∀ c ∈ word, c.isAlphanum = true) :
    lower (smallWord word) = smallWord word := by
  have noCapitals : ∀ c ∈ smallWord word,
      (if c.isUpper then ['_', c.toLower] else [c]) = [c] := by
    rw [smallWord_of_plain alphanumeric]
    intro c member
    obtain ⟨original, inWord, rfl⟩ := List.mem_map.1 member
    simp [(styled_of_isAlphanum (alphanumeric original inWord)).isUpper_toLower]
  rw [lower, List.flatMap_congr noCapitals, List.flatMap_singleton']

/-- The capital of a word becomes its mark. -/
theorem lower_capitalisedWord (plain : IsPlainWord word) :
    lower (capitalisedWord word) = markedWord word := by
  obtain ⟨c, others, rfl, styled, small, capitalised⟩ := plain.exists_shape
  have rest := lower_smallWord (List.forall_mem_cons.1 plain.alphanumeric).2
  rw [lower] at rest
  rw [capitalised, markedWord, small, lower, List.flatMap_cons, rest]
  cases digit : c.isDigit with
  | false =>
      obtain ⟨isCapital, lowered⟩ := styled.letter digit
      simp [isCapital, lowered, digit]
  | true =>
      obtain ⟨upper, lowered, notCapital⟩ := styled.digit digit
      simp [upper, lowered, notCapital, digit]

/-- A marked word without its mark is the small word. -/
theorem dropMark_markedWord (plain : IsPlainWord word) :
    dropMark (markedWord word ++ rest) = smallWord word ++ rest := by
  unfold markedWord
  split
  · obtain ⟨c, others, rfl, -, small, -⟩ := plain.exists_shape
    have free := List.forall_mem_cons.1 (small ▸ plain.small.1.ne_underscore)
    rw [small, List.cons_append, dropMark, if_neg free.1]
  · rfl

end Words

/-! ## All words of a name -/

section Names

variable {words : List (List Char)} (plain : ∀ word ∈ words, IsPlainWord word)

include plain

/-- Behind other words, underscores stay before letters only. -/
theorem joinDigits_behind :
    joinDigits (words.flatMap fun word => '_' :: smallWord word) = words.flatMap markedWord := by
  induction words with
  | nil => rfl
  | cons word words inductionHypothesis =>
      obtain ⟨first, others⟩ := List.forall_mem_cons.1 plain
      rw [List.flatMap_cons, List.flatMap_cons, List.cons_append, joinDigits,
        first.head?_smallWord, joinDigits_append first.small.1.ne_underscore,
        inductionHypothesis others]
      cases digit : word.head?.any Char.isDigit <;> simp [markedWord, digit]

/-- Marked words become capitalised ones. -/
theorem raise_words :
    raise false (words.flatMap markedWord) = words.flatMap capitalisedWord := by
  induction words with
  | nil => rfl
  | cons word words inductionHypothesis =>
      obtain ⟨first, others⟩ := List.forall_mem_cons.1 plain
      rw [List.flatMap_cons, List.flatMap_cons, raise_markedWord first,
        inductionHypothesis others]

/-- Capitalised words become marked ones. -/
theorem lower_words :
    lower (words.flatMap capitalisedWord) = words.flatMap markedWord := by
  rw [lower, List.flatMap_assoc]
  exact List.flatMap_congr fun word member => lower_capitalisedWord (plain word member)

/-- Capitals can be made of the small letters, and small letters of the capitals. -/
theorem raise_joinDigits_and_back :
    let small := joinDigits (['_'].intercalate (words.map smallWord))
    let capitals := words.flatMap capitalisedWord
    raise true small = capitals ∧ dropMark (lower capitals) = small := by
  cases words with
  | nil => exact ⟨rfl, rfl⟩
  | cons word words =>
      obtain ⟨first, others⟩ := List.forall_mem_cons.1 plain
      have small : joinDigits (['_'].intercalate ((word :: words).map smallWord)) =
          smallWord word ++ words.flatMap markedWord := by
        rw [List.map_cons, intercalate_cons, List.flatMap_map,
          joinDigits_append first.small.1.ne_underscore, joinDigits_behind others]
      dsimp only
      rw [small, lower_words plain, List.flatMap_cons, List.flatMap_cons,
        dropMark_markedWord first, raise_smallWord first, raise_words others]
      exact ⟨rfl, rfl⟩

end Names

/-- Capitals keep what is left of the small letters without underscores before digits. -/
theorem upperCamelCase_eq_iff {first second : String} (firstPlain : IsPlain first)
    (secondPlain : IsPlain second) :
    upperCamelCase first = upperCamelCase second ↔ joinedName first = joinedName second := by
  obtain ⟨raiseFirst, lowerFirst⟩ :=
    raise_joinDigits_and_back fun _ member => plain_of_mem_words firstPlain member
  obtain ⟨raiseSecond, lowerSecond⟩ :=
    raise_joinDigits_and_back fun _ member => plain_of_mem_words secondPlain member
  rw [← toList_snakeCase, ← toList_upperCamelCase] at raiseFirst lowerFirst raiseSecond lowerSecond
  constructor
  · intro same
    rw [joinedName, joinedName, ← lowerFirst, ← lowerSecond, same]
  · intro same
    have joined := String.ofList_injective same
    rw [← String.toList_inj, ← raiseFirst, ← raiseSecond, joined]

end Text

/-! ## Structs of models -/

namespace Access

/--
In a plan that compiles, the structs of two models have one name exactly if the names of the models
in small letters are the same without underscores before digits. So the structs have different names
exactly if the models still have, without these underscores; and that is so if there are none.
-/
theorem structNames_nodup_iff {source : String} {plan : Plan}
    (compiled : compile source = .ok plan) :
    (∀ first ∈ plan.models, ∀ second ∈ plan.models,
      structName first.name = structName second.name ↔
        Text.joinedName first.name = Text.joinedName second.name) ∧
    ((plan.models.map fun model => structName model.name).Nodup ↔
      (plan.models.map fun model => Text.joinedName model.name).Nodup) ∧
    ((∀ model ∈ plan.models, Text.joinedName model.name = Text.snakeCase model.name) →
      (plan.models.map fun model => structName model.name).Nodup) := by
  have plain : ∀ model ∈ plan.models, Text.IsPlain model.name := fun model member =>
    Text.isPlain_of_isWord (worded_of_compile compiled model member).name
  have same : ∀ first ∈ plan.models, ∀ second ∈ plan.models,
      structName first.name = structName second.name ↔
        Text.joinedName first.name = Text.joinedName second.name :=
    fun first isFirst second isSecond =>
      Text.upperCamelCase_eq_iff (plain first isFirst) (plain second isSecond)
  have nodup : (plan.models.map fun model => structName model.name).Nodup ↔
      (plan.models.map fun model => Text.joinedName model.name).Nodup := by
    unfold List.Nodup
    rw [List.pairwise_map, List.pairwise_map]
    exact List.Pairwise.iff_of_mem fun isFirst isSecond => not_congr (same _ isFirst _ isSecond)
  refine ⟨same, nodup, fun joined => nodup.2 ?_⟩
  rw [List.map_congr_left joined]
  exact (wellFormed_of_compile compiled).models.snakeNames

/-- A schema with an underscore before a digit. -/
def loginCodeSource : String :=
  "model user ( field id int autoincrement )
model user_2fa ( field id int autoincrement )
"

/-- The plan of the schema. -/
def loginCodePlan : Plan where
  models := [
    ⟨"user", "user", [⟨{ autoincrement := true }, "id", "id", .int, none, none, ⟨1, 20, 19⟩⟩],
      [0], [], ⟨1, 1, 0⟩⟩,
    ⟨"user_2fa", "user_2fa",
      [⟨{ autoincrement := true }, "id", "id", .int, none, none, ⟨2, 24, 65⟩⟩],
      [0], [], ⟨2, 1, 42⟩⟩]

/-- The structs of users and of their codes have different names. -/
theorem loginCodePlan_structNames :
    compile loginCodeSource = .ok loginCodePlan ∧
    loginCodePlan.models.map (fun model => Text.joinedName model.name) = ["user", "user2fa"] ∧
    (loginCodePlan.models.map fun model => structName model.name).Nodup := by
  have compiled : compile loginCodeSource = .ok loginCodePlan := by
    apply eq_ok_of_toOption
    unfold loginCodeSource
    rw [compile_ofList]
    decide +kernel
  have joined : loginCodePlan.models.map (fun model => Text.joinedName model.name) =
      ["user", "user2fa"] := by decide +kernel
  refine ⟨compiled, joined, (structNames_nodup_iff compiled).2.1.2 ?_⟩
  rw [joined]
  decide

/-- A schema with two models whose names differ in an underscore before a digit only. -/
def partSource : String :=
  "model part1 ( field id int autoincrement )
model part_1 ( field id int autoincrement )
"

/-- The plan of the schema. -/
def partPlan : Plan where
  models := [
    ⟨"part1", "part1", [⟨{ autoincrement := true }, "id", "id", .int, none, none, ⟨1, 21, 20⟩⟩],
      [0], [], ⟨1, 1, 0⟩⟩,
    ⟨"part_1", "part_1", [⟨{ autoincrement := true }, "id", "id", .int, none, none, ⟨2, 22, 64⟩⟩],
      [0], [], ⟨2, 1, 43⟩⟩]

/-- Both models are enrolled, and their structs have one name. -/
theorem partPlan_structNames_collide :
    compile partSource = .ok partPlan ∧
    (partPlan.models.map fun model => Text.snakeCase model.name) = ["part1", "part_1"] ∧
    (partPlan.models.map fun model => structName model.name) = ["Part1", "Part1"] := by
  refine ⟨?_, by decide +kernel, by decide +kernel⟩
  apply eq_ok_of_toOption
  unfold partSource
  rw [compile_ofList]
  decide +kernel

end Access

end Schemata
