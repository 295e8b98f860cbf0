import Schemata.Text.Alphanumeric
import Schemata.Text.LetterCase
import Schemata.Text.Split

/-!
# Words of a name

A name is cut into words at every character that is neither letter nor number,
and inside a piece where the case of the letters changes: after a small letter
that a capital follows, and before the last capital of a run that a small letter
follows. Uncased characters such as digits continue the case before them. The
words are then written in one of three styles.
-/

namespace Schemata.Text

/-- The case of the letters read so far in a word, if any of them has a case. -/
inductive CaseMode where
  | unknown
  | small
  | capital
  deriving DecidableEq, Repr

/-- The mode after one more character: uncased characters keep it. -/
def CaseMode.after (mode : CaseMode) (c : Char) : CaseMode :=
  if isSmall c then .small
  else if isCapital c then .capital
  else mode

/-- Put a character in front of the first word. -/
def prependToFirst (c : Char) : List (List Char) → List (List Char)
  | [] => [[c]]
  | word :: words => (c :: word) :: words

/--
Cut a piece into words. The first word of the result continues the word that the
characters before it belong to, whose case is `mode`.
-/
def cutWords (mode : CaseMode) : List Char → List (List Char)
  | [] => []
  | [c] => [[c]]
  | c :: next :: rest =>
    if mode.after c = .small && isCapital next then
      [c] :: cutWords .unknown (next :: rest)
    else if mode = .capital && isCapital c && isSmall next then
      [] :: prependToFirst c (cutWords .unknown (next :: rest))
    else
      prependToFirst c (cutWords (mode.after c) (next :: rest))

/-- Cutting loses no character and changes no order. -/
theorem flatten_cutWords (mode : CaseMode) (piece : List Char) :
    (cutWords mode piece).flatten = piece := by
  have flatten_prepend (c : Char) (words : List (List Char)) :
      (prependToFirst c words).flatten = c :: words.flatten := by
    cases words <;> simp [prependToFirst]
  induction piece generalizing mode with
  | nil => simp [cutWords]
  | cons c rest inductionHypothesis =>
    cases rest with
    | nil => simp [cutWords]
    | cons next rest =>
      unfold cutWords
      split
      · simp [inductionHypothesis]
      · split <;> simp [flatten_prepend, inductionHypothesis]

/-- The words of a name, in order. -/
def words (name : String) : List (List Char) :=
  (splitWhere (fun c => !isWordCharacter c) name.toList).flatMap (cutWords .unknown)

/-- A word in small letters. A capital sigma at the end of a word takes its final form. -/
def smallWord : List Char → List Char
  | [] => []
  | [c] => if c = 'Σ' then ['ς'] else toSmall c
  | c :: rest => toSmall c ++ smallWord rest

/--
A word with a capital first and small letters after it. Only names of models,
fields and dialects are written this way, so only ASCII letters are capitalised.
-/
def capitalisedWord : List Char → List Char
  | [] => []
  | c :: rest => c.toUpper :: smallWord rest

/-- Words in small letters, joined by underscores. -/
def snakeCase (name : String) : String :=
  "_".intercalate ((words name).map fun word => String.ofList (smallWord word))

/-- Words in capitals, joined by underscores; ASCII letters only, as for `capitalisedWord`. -/
def shoutyCase (name : String) : String :=
  "_".intercalate ((words name).map fun word => String.ofList (word.map Char.toUpper))

/-- Capitalised words, with nothing between them. -/
def upperCamelCase (name : String) : String :=
  String.join ((words name).map fun word => String.ofList (capitalisedWord word))

end Schemata.Text
