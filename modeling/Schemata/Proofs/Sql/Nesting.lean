import Mathlib.Tactic.SplitIfs
import Schemata.Proofs.Sql.Spacing

/-!
# Quotes and parentheses in the text of a statement

A list of expressions is read by splitting it at its commas, but not at those inside of quotes or
parentheses, and what stands between parentheses ends where the first one is closed. Here are both
readings. They pass over `Balanced` text, in which whatever opens is closed: every piece of a
statement is such text, whatever names and literals it holds, and so is what is put together from
such pieces.
-/

namespace Schemata.Sql

/-! ## Reading nested text -/

/-- What is open at a place of a text: a quote, if there is one, and some parentheses. -/
structure Nesting where
  quote : Option Char := none
  depth : Nat := 0
  deriving DecidableEq

namespace Nesting

/-- Nothing is open. -/
def outermost : Nesting := {}

/-- What is open behind a character. A quote that is written twice is closed and opened again. -/
def behind (nesting : Nesting) (c : Char) : Nesting :=
  match nesting.quote with
  | some quote => if c = quote then { nesting with quote := none } else nesting
  | none =>
    if c = '\'' ∨ c = '"' then { nesting with quote := some c }
    else if c = '(' then { nesting with depth := nesting.depth + 1 }
    else if c = ')' then { nesting with depth := nesting.depth - 1 }
    else nesting

end Nesting

/-- The parts of a text between its commas outside of quotes and parentheses. -/
def partsFrom : Nesting → List Char → List (List Char)
  | _, [] => [[]]
  | nesting, c :: rest =>
    if c = ',' ∧ nesting = .outermost then [] :: partsFrom nesting rest
    else (partsFrom (nesting.behind c) rest).modifyHead (c :: ·)

/-- A text without the blanks around it. -/
def trimmed (text : List Char) : List Char :=
  ((text.dropWhile (· = ' ')).reverse.dropWhile (· = ' ')).reverse

/-- The expressions of a list. -/
def expressions (text : String) : List String :=
  (partsFrom .outermost text.toList).map fun part => String.ofList (trimmed part)

/-- The text before the parenthesis that closes the last open one, if nothing stands behind it. -/
def closedFrom : Nesting → List Char → Option (List Char)
  | _, [] => none
  | nesting, c :: rest =>
    if nesting.behind c = .outermost then if rest.isEmpty then some [] else none
    else (closedFrom (nesting.behind c) rest).map (c :: ·)

/-- What stands between the parentheses around a text, if there are such. -/
def parenthesized? (text : String) : Option String :=
  match text.toList with
  | [] => none
  | c :: rest =>
    if c = '(' then (closedFrom { depth := 1 } rest).map String.ofList else none

/-! ## Balanced text -/

/--
A character that is read at some nesting belongs to a text at some depth: it stands deeper, or
between quotes, or it neither closes a parenthesis nor, unless there may be some, is a comma.
-/
def Nesting.Inside (commas : Bool) (depth : Nat) (nesting : Nesting) (c : Char) : Prop :=
  depth < nesting.depth ∨
    nesting.depth = depth ∧ (nesting.quote ≠ none ∨ c ≠ ')' ∧ (c = ',' → commas = true))

/-- A text at some depth leads from one nesting to another. -/
def Walks (commas : Bool) (depth : Nat) : Nesting → List Char → Nesting → Prop
  | start, [], stop => start = stop
  | start, c :: rest, stop =>
    start.Inside commas depth c ∧ Walks commas depth (start.behind c) rest stop

/-- What opens in a text is closed in it, at every depth. It may have commas, or has none. -/
def Balanced (commas : Bool) (text : List Char) : Prop :=
  ∀ depth, Walks commas depth ⟨none, depth⟩ text ⟨none, depth⟩

section Walking

variable {commas : Bool} {depth : Nat} {start middle stop : Nesting} {text more : List Char}

/-- Walks follow each other. -/
theorem Walks.append (first : Walks commas depth start text middle)
    (second : Walks commas depth middle more stop) :
    Walks commas depth start (text ++ more) stop := by
  induction text generalizing start with
  | nil =>
      obtain rfl : start = middle := first
      exact second
  | cons c text inductionHypothesis => exact ⟨first.1, inductionHypothesis first.2⟩

/-- What is inside of a parenthesis is inside of the text around it. -/
theorem Walks.outward (walks : Walks true (depth + 1) start text stop) :
    Walks commas depth start text stop := by
  induction text generalizing start with
  | nil => exact walks
  | cons c text inductionHypothesis =>
      obtain ⟨inside, rest⟩ := walks
      have deeper : depth < start.depth := by
        rcases inside with deeper | ⟨same, -⟩ <;> omega
      exact ⟨.inl deeper, inductionHypothesis rest⟩

/-- A text without commas of its own is one part, or the start of one. -/
theorem partsFrom_append (walks : Walks false 0 start text stop) (rest : List Char) :
    partsFrom start (text ++ rest) = (partsFrom stop rest).modifyHead (text ++ ·) := by
  induction text generalizing start with
  | nil =>
      obtain rfl : start = stop := walks
      exact (congrFun List.modifyHead_id _).symm
  | cons c text inductionHypothesis =>
      obtain ⟨inside, others⟩ := walks
      have inner : ¬(c = ',' ∧ start = .outermost) := by
        rintro ⟨rfl, rfl⟩
        simp [Nesting.Inside, Nesting.outermost] at inside
      rw [List.cons_append, partsFrom, if_neg inner, inductionHypothesis others,
        List.modifyHead_modifyHead]
      rfl

/-- Inside of a parenthesis, a character does not close it. -/
theorem Nesting.depth_behind_pos {nesting : Nesting} {c : Char}
    (inside : nesting.Inside true 1 c) : 0 < (nesting.behind c).depth := by
  have deep : 0 < nesting.depth := by
    rcases inside with deeper | ⟨same, -⟩ <;> omega
  unfold behind
  split
  · split_ifs <;> exact deep
  next unquoted =>
    split_ifs with isQuote isOpening isClosing
    · exact deep
    · exact Nat.succ_pos _
    · -- A parenthesis that closes lowers the depth, but not from one: there it is not inside.
      rcases inside with deeper | ⟨-, quoted | ⟨notClosing, -⟩⟩
      · exact Nat.sub_pos_of_lt deeper
      · exact (quoted unquoted).elim
      · exact (notClosing isClosing).elim
    · exact deep

/-- A text inside of a parenthesis does not close it. -/
theorem closedFrom_append (walks : Walks true 1 start text stop) (rest : List Char) :
    closedFrom start (text ++ rest) = (closedFrom stop rest).map (text ++ ·) := by
  induction text generalizing start with
  | nil =>
      obtain rfl : start = stop := walks
      simp
  | cons c text inductionHypothesis =>
      obtain ⟨inside, others⟩ := walks
      have deep := Nesting.depth_behind_pos inside
      have stillOpen : start.behind c ≠ .outermost := by
        intro closed
        rw [closed] at deep
        exact Nat.lt_irrefl 0 deep
      rw [List.cons_append, closedFrom, if_neg stillOpen, inductionHypothesis others,
        Option.map_map]
      rfl

end Walking

namespace Balanced

variable {commas : Bool} {text more : List Char}

/-- Nothing opens in an empty text. -/
theorem nil : Balanced commas [] :=
  fun _ => rfl

/-- Texts are balanced together if each of them is. -/
theorem append (first : Balanced commas text) (second : Balanced commas more) :
    Balanced commas (text ++ more) :=
  fun depth => (first depth).append (second depth)

/-- A balanced text without commas belongs to the part that it stands in. -/
theorem partsFrom_append (balanced : Balanced false text) (rest : List Char) :
    partsFrom .outermost (text ++ rest) = (partsFrom .outermost rest).modifyHead (text ++ ·) :=
  Sql.partsFrom_append (balanced 0) rest

/-- What stands between parentheses may have commas, and they are not commas of the whole. -/
theorem group (inside : Balanced true text) : Balanced commas ('(' :: (text ++ [')'])) := by
  intro depth
  refine ⟨.inr ⟨rfl, .inr ⟨by decide, by simp⟩⟩, ?_⟩
  have walks : Walks commas depth ⟨none, depth + 1⟩ text ⟨none, depth + 1⟩ :=
    (inside (depth + 1)).outward
  exact walks.append ⟨.inl (Nat.lt_succ_self depth), rfl⟩

end Balanced

/-- A character that neither opens nor closes anything. It may be a comma, or is none. -/
def Unnested (commas : Bool) (c : Char) : Prop :=
  c ∉ ['\'', '"', '(', ')'] ∧ (c = ',' → commas = true)

instance (commas : Bool) (c : Char) : Decidable (Unnested commas c) :=
  inferInstanceAs (Decidable (c ∉ ['\'', '"', '(', ')'] ∧ (c = ',' → commas = true)))

/-- A text of such characters. -/
def Flat (commas : Bool) (text : String) : Prop :=
  ∀ c ∈ text.toList, Unnested commas c

instance (commas : Bool) (text : String) : Decidable (Flat commas text) :=
  List.decidableBAll (Unnested commas) text.toList

/-- A text that opens and closes nothing is balanced. -/
theorem balanced_of_unnested {commas : Bool} {text : List Char}
    (unnested : ∀ c ∈ text, Unnested commas c) : Balanced commas text := by
  intro depth
  induction text with
  | nil => rfl
  | cons c text inductionHypothesis =>
      obtain ⟨⟨noBracket, comma⟩, others⟩ := List.forall_mem_cons.1 unnested
      simp only [List.mem_cons, List.not_mem_nil, or_false, not_or] at noBracket
      have stays : Nesting.behind ⟨none, depth⟩ c = ⟨none, depth⟩ := by
        simp [Nesting.behind, noBracket]
      refine ⟨.inr ⟨rfl, .inr ⟨noBracket.2.2.2, comma⟩⟩, ?_⟩
      rw [stays]
      exact inductionHypothesis others

/-- A flat text is balanced. -/
theorem Flat.balanced {commas : Bool} {text : String} (flat : Flat commas text) :
    Balanced commas text.toList :=
  balanced_of_unnested flat

/-- Texts are flat together if each of them is. -/
theorem Flat.append {commas : Bool} {text more : String} (flat : Flat commas text)
    (moreFlat : Flat commas more) : Flat commas (text ++ more) := by
  intro c member
  rw [String.toList_append] at member
  exact (List.mem_append.1 member).elim (flat c) (moreFlat c)

/-- A class of characters without quotes, parentheses and commas. -/
theorem unnested_of_class {commas : Bool} {inClass : Char → Bool}
    (none : ['\'', '"', '(', ')', ','].any inClass = false) {c : Char}
    (member : inClass c = true) : Unnested commas c := by
  have other : c ∉ ['\'', '"', '(', ')', ','] :=
    fun special => List.any_eq_false.1 none c special member
  simp only [List.mem_cons, List.not_mem_nil, or_false, not_or] at other
  simp [Unnested, other]

/-- Between quotes everything is passed over, and a doubled quote opens them again. -/
theorem walks_doubled {commas : Bool} {quote : Char} (isQuote : quote = '\'' ∨ quote = '"')
    (depth : Nat) (text : List Char) :
    Walks commas depth ⟨some quote, depth⟩ (doubled quote text) ⟨some quote, depth⟩ := by
  induction text with
  | nil => rfl
  | cons c text inductionHypothesis =>
      have quoted : Nesting.Inside commas depth ⟨some quote, depth⟩ c :=
        .inr ⟨rfl, .inl (by simp)⟩
      rw [doubled, List.flatMap_cons]
      refine Walks.append ?_ inductionHypothesis
      by_cases same : c = quote
      · subst same
        have reopens : Nesting.Inside commas depth ⟨none, depth⟩ c := by
          refine .inr ⟨rfl, .inr ?_⟩
          rcases isQuote with rfl | rfl <;> simp
        rw [if_pos rfl]
        refine ⟨quoted, ?_⟩
        simp [Walks, Nesting.behind, isQuote, reopens]
      · rw [if_neg same]
        refine ⟨quoted, ?_⟩
        simp [Walks, Nesting.behind, same]

/-- What stands between quotes, with its quotes doubled, is balanced. -/
theorem balanced_quoted {commas : Bool} {quote : Char} (isQuote : quote = '\'' ∨ quote = '"')
    (text : List Char) : Balanced commas (quote :: (doubled quote text ++ [quote])) := by
  intro depth
  have opens : Nesting.behind ⟨none, depth⟩ quote = ⟨some quote, depth⟩ := by
    simp [Nesting.behind, isQuote]
  have closes : Walks commas depth ⟨some quote, depth⟩ [quote] ⟨none, depth⟩ :=
    ⟨.inr ⟨rfl, .inl (by simp)⟩, by simp [Walks, Nesting.behind]⟩
  refine ⟨.inr ⟨rfl, .inr ?_⟩, ?_⟩
  · rcases isQuote with rfl | rfl <;> simp
  · rw [opens]
    exact (walks_doubled isQuote depth text).append closes

/-! ## Pieces -/

/-- A name is balanced, bare or quoted. -/
theorem balanced_identifier {commas : Bool} (name : String) :
    Balanced commas (identifier name).toList := by
  unfold identifier
  split
  next bare =>
    exact Flat.balanced fun _ member =>
      unnested_of_class (by decide) (continuesBareName_of_mem bare member)
  next =>
    have quoted : Balanced commas ('"' :: (doubled '"' name.toList ++ ['"'])) :=
      balanced_quoted (.inr rfl) name.toList
    simpa [quotedName, doubled] using quoted

/-- A number is flat. -/
theorem flat_toString {commas : Bool} (number : Nat) : Flat commas (toString number) :=
  fun _ member => unnested_of_class (by decide) (isDigit_of_mem_toString member)

/-- A literal is balanced. -/
theorem balanced_literal {commas : Bool} (value : Literal) :
    Balanced commas value.sql.toList := by
  cases value with
  | null => exact Flat.balanced (by cases commas <;> decide)
  | bool value => cases value <;> exact Flat.balanced (by cases commas <;> decide)
  | int value =>
      apply Flat.balanced
      cases value with
      | ofNat number => exact flat_toString number
      | negSucc number =>
          have shape : (Literal.int (Int.negSucc number)).sql = "-" ++ toString (number + 1) := rfl
          rw [shape]
          exact Flat.append (by cases commas <;> decide) (flat_toString (number + 1))
  | text content =>
      have quoted : Balanced commas ('\'' :: (doubled '\'' content.toList ++ ['\''])) :=
        balanced_quoted (.inl rfl) content.toList
      simpa [Literal.sql, doubleQuotes_eq_doubled] using quoted

/-- A placeholder is balanced. -/
theorem balanced_placeholder {commas : Bool} (style : PlaceholderStyle) (number : Nat) :
    Balanced commas (style.placeholder number).toList := by
  apply Flat.balanced
  cases style with
  | question => exact (by cases commas <;> decide : Flat commas "?")
  | dollar => exact Flat.append (by cases commas <;> decide) (flat_toString number)

namespace Fragment

/-- The words of a fragment open and close nothing. -/
def Flat (commas : Bool) (fragment : Fragment) : Prop :=
  ∀ text, .words text ∈ fragment → Sql.Flat commas text

/-- Words that are flat make a flat fragment. -/
theorem flat_words {commas : Bool} {text : String} (flat : Sql.Flat commas text) :
    Flat commas [.words text] := by
  intro other member
  obtain rfl : other = text := by simpa using member
  exact flat

/-- Fragments are flat together if each of them is. -/
theorem Flat.append {commas : Bool} {first second : Fragment} (flat : first.Flat commas)
    (secondFlat : second.Flat commas) : Flat commas (first ++ second) := by
  intro text member
  exact (List.mem_append.1 member).elim (flat text) (secondFlat text)

/-- A fragment whose words open and close nothing is balanced text. -/
theorem Flat.balanced_write {commas : Bool} {fragment : Fragment}
    (flat : fragment.Flat commas) (style : PlaceholderStyle) (count : Nat) :
    Balanced commas (fragment.write style count).toList := by
  induction fragment generalizing count with
  | nil => exact .nil
  | cons piece rest inductionHypothesis =>
      have others : ∀ count, Balanced commas (write style count rest).toList :=
        inductionHypothesis fun text member => flat text (List.mem_cons_of_mem _ member)
      cases piece with
      | words text =>
          rw [write, String.toList_append]
          exact (flat text List.mem_cons_self).balanced.append (others count)
      | name name =>
          rw [write, String.toList_append]
          exact (balanced_identifier name).append (others count)
      | literal value =>
          rw [write, String.toList_append]
          exact (balanced_literal value).append (others count)
      | param param =>
          rw [write, String.toList_append]
          exact (balanced_placeholder style (count + 1)).append (others (count + 1))

end Fragment

/-! ## Lists of expressions -/

/-- A text without blanks around it. -/
structure Tidy (text : List Char) : Prop where
  starts : ∃ c rest, text = c :: rest ∧ c ≠ ' '
  ends : ∃ front c, text = front ++ [c] ∧ c ≠ ' '

/-- A text is tidy if its start and its end are, whatever stands between them. -/
theorem Tidy.append {first second : List Char} (firstTidy : Tidy first) (middle : List Char)
    (secondTidy : Tidy second) : Tidy (first ++ middle ++ second) where
  starts := by
    obtain ⟨c, rest, rfl, visible⟩ := firstTidy.starts
    exact ⟨c, rest ++ middle ++ second, rfl, visible⟩
  ends := by
    obtain ⟨front, c, rfl, visible⟩ := secondTidy.ends
    exact ⟨first ++ middle ++ front, c, (List.append_assoc ..).symm, visible⟩

/-- A name starts and ends with quotes, or with characters of bare names. -/
theorem identifier_ends (name : String) :
    (∃ c rest, (identifier name).toList = c :: rest ∧ (c = '"' ∨ continuesBareName c = true)) ∧
      ∃ front c, (identifier name).toList = front ++ [c] ∧
        (c = '"' ∨ continuesBareName c = true) := by
  unfold identifier
  split
  next bare =>
    have nonempty : name.toList ≠ [] := by
      intro empty
      simp [isBareName, empty] at bare
    constructor
    · obtain ⟨c, rest, shape⟩ := List.exists_cons_of_ne_nil nonempty
      exact ⟨c, rest, shape, .inr (continuesBareName_of_mem bare (by simp [shape]))⟩
    · exact ⟨_, _, (List.dropLast_concat_getLast nonempty).symm,
        .inr (continuesBareName_of_mem bare (List.getLast_mem nonempty))⟩
  next =>
    rw [quotedName, String.toList_ofList]
    exact ⟨⟨'"', _, rfl, .inl rfl⟩, ⟨_, '"', rfl, .inl rfl⟩⟩

/-- A name is tidy, bare or quoted. -/
theorem tidy_identifier (name : String) : Tidy (identifier name).toList := by
  obtain ⟨⟨first, rest, starts, firstClass⟩, ⟨front, last, ends, lastClass⟩⟩ :=
    identifier_ends name
  constructor
  · refine ⟨first, rest, starts, ?_⟩
    rintro rfl
    exact absurd firstClass (by decide)
  · refine ⟨front, last, ends, ?_⟩
    rintro rfl
    exact absurd lastClass (by decide)

/-- Blanks in front of a text are trimmed. -/
theorem trimmed_append {blanks : List Char} (blank : ∀ c ∈ blanks, c = ' ') (text : List Char) :
    trimmed (blanks ++ text) = trimmed text := by
  rw [trimmed, List.dropWhile_append_of_pos (by simpa using blank), trimmed]

/-- Blanks behind a tidy text are dropped. -/
theorem Tidy.trimmed_append {text blanks : List Char} (tidy : Tidy text)
    (blank : ∀ c ∈ blanks, c = ' ') : trimmed (text ++ blanks) = text := by
  have start : (text ++ blanks).dropWhile (· = ' ') = text ++ blanks := by
    obtain ⟨c, rest, rfl, visible⟩ := tidy.starts
    simp [visible]
  have stop : text.reverse.dropWhile (· = ' ') = text.reverse := by
    obtain ⟨front, c, rfl, visible⟩ := tidy.ends
    simp [visible]
  rw [trimmed, start, List.reverse_append, List.dropWhile_append_of_pos (by simpa using blank),
    stop, List.reverse_reverse]

/-- Blanks in front of the first part are trimmed with it. -/
theorem map_trimmed_modifyHead {blanks : List Char} (blank : ∀ c ∈ blanks, c = ' ')
    (parts : List (List Char)) :
    (parts.modifyHead (blanks ++ ·)).map trimmed = parts.map trimmed := by
  cases parts with
  | nil => rfl
  | cons part parts => simp [trimmed_append blank]

/-- Blanks are balanced. -/
theorem balanced_of_blank {commas : Bool} {blanks : List Char} (blank : ∀ c ∈ blanks, c = ' ') :
    Balanced commas blanks :=
  balanced_of_unnested fun c member => blank c member ▸ by cases commas <;> decide

/-- An expression: it has no blanks around it and no commas of its own. -/
structure IsExpression (text : List Char) : Prop extends Tidy text where
  balanced : Balanced false text

/-- A list of expressions is split into them, with blanks around it or not. -/
theorem map_trimmed_partsFrom {texts : List (List Char)} (nonempty : texts ≠ [])
    (each : ∀ text ∈ texts, IsExpression text) {behind : List Char}
    (blank : ∀ c ∈ behind, c = ' ') :
    (partsFrom .outermost ([',', ' '].intercalate texts ++ behind)).map trimmed = texts := by
  induction texts with
  | nil => exact absurd rfl nonempty
  | cons text texts inductionHypothesis =>
      obtain ⟨first, others⟩ := List.forall_mem_cons.1 each
      cases texts with
      | nil =>
          have whole := (first.balanced.append (balanced_of_blank blank)).partsFrom_append []
          rw [List.append_nil] at whole
          rw [List.intercalate_singleton, whole]
          simp [partsFrom, first.trimmed_append blank]
      | cons next texts =>
          have rest := inductionHypothesis (List.cons_ne_nil _ _) others
          -- The next part starts with the blank behind the comma, which is trimmed off.
          have single : ∀ c ∈ [' '], c = ' ' := by simp
          rw [List.intercalate_cons_cons, List.append_assoc, List.append_assoc,
            first.balanced.partsFrom_append, List.cons_append, partsFrom, if_pos ⟨rfl, rfl⟩,
            (balanced_of_blank single).partsFrom_append, List.modifyHead_cons, List.map_cons,
            map_trimmed_modifyHead single, rest]
          exact congrArg (· :: next :: texts) (first.trimmed_append (List.forall_mem_nil _))

/-- The expressions of a list are found, with blanks around it or not. -/
theorem expressions_intercalate {names : List String} (nonempty : names ≠ [])
    (each : ∀ name ∈ names, IsExpression name.toList) (before behind : String)
    (blankBefore : ∀ c ∈ before.toList, c = ' ') (blankBehind : ∀ c ∈ behind.toList, c = ' ') :
    expressions (before ++ ", ".intercalate names ++ behind) = names := by
  have texts : ∀ text ∈ names.map String.toList, IsExpression text := by
    intro text member
    obtain ⟨name, nameMember, rfl⟩ := List.mem_map.1 member
    exact each name nameMember
  have split := map_trimmed_partsFrom (by simpa using nonempty) texts blankBehind
  have shape : (before ++ ", ".intercalate names ++ behind).toList =
      before.toList ++ ([',', ' '].intercalate (names.map String.toList) ++ behind.toList) := by
    simp
  have trimmedParts := map_trimmed_modifyHead blankBefore
    (partsFrom .outermost
      ([',', ' '].intercalate (names.map String.toList) ++ behind.toList))
  rw [split, ← (balanced_of_blank blankBefore).partsFrom_append, ← shape] at trimmedParts
  have named := congrArg (List.map String.ofList) trimmedParts
  simpa [expressions, List.map_map, Function.comp_def] using named

/-- An expression is the only one of itself. -/
theorem IsExpression.expressions_eq {text : String} (isExpression : IsExpression text.toList) :
    expressions text = [text] := by
  have found := expressions_intercalate (List.cons_ne_nil text [])
    (List.forall_mem_singleton.2 isExpression) "" "" (by simp) (by simp)
  simpa using found

/-- A name opens no parenthesis, whatever follows it. -/
theorem parenthesized?_identifier (name rest : String) :
    parenthesized? (identifier name ++ rest) = none := by
  obtain ⟨⟨c, others, starts, inClass⟩, -⟩ := identifier_ends name
  have other : c ≠ '(' := by
    rintro rfl
    exact absurd inClass (by decide)
  simp [parenthesized?, starts, other]

/-- A text between parentheses. -/
theorem toList_group (text : String) :
    ("(" ++ text ++ ")").toList = '(' :: (text.toList ++ [')']) := by
  simp

/-- What stands between parentheses is found, if it is balanced. -/
theorem parenthesized?_group {text : String} (balanced : Balanced true text.toList) :
    parenthesized? ("(" ++ text ++ ")") = some text := by
  have closed : closedFrom { depth := 1 } (text.toList ++ [')']) = some text.toList := by
    rw [closedFrom_append (balanced 1)]
    simp [closedFrom, Nesting.behind, Nesting.outermost]
  rw [parenthesized?, toList_group]
  simp [closed]

end Schemata.Sql
