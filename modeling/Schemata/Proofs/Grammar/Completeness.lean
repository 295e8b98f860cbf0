import Schemata.Proofs.Grammar

/-!
# Every derivation is read

What the grammar derives, the readers read, and they stop where the derivation stops. A
reader looks one token ahead, so each statement here has a condition on the tokens behind the
phrase: behind an entry stands the end, a separator or a closing parenthesis
(`EndsEntry`). The readers of entries and groups count down a bound; twice the number of
tokens of the phrase is enough for it (`Reads`), whatever stands behind the phrase.
-/

namespace Schemata.Grammar

open Node

/-! ## What stands behind a phrase -/

/-- Behind an entry stands the end, a separator or a closing parenthesis. -/
def EndsEntry : List Token → Prop
  | [] => True
  | token :: _ => token.lexeme.isSeparator = true ∨ token.lexeme = .closeParen

/-- Behind the values of an entry stands nothing that starts or continues a value. -/
def EndsValues : List Token → Prop
  | [] => True
  | token :: _ => token.lexeme ≠ .dot ∧ (∀ name, token.lexeme ≠ .ident name) ∧
      simpleAtom? token.lexeme = none

/-- No dot stands at the head of these tokens. -/
def NoDot : List Token → Prop
  | [] => True
  | token :: _ => token.lexeme ≠ .dot

/-- What ends the values of an entry does not go on with a path. -/
theorem EndsValues.noDot {rest : List Token} (ends : EndsValues rest) : NoDot rest := by
  cases rest with
  | nil => trivial
  | cons token rest => exact ends.1

/-- What ends an entry ends its values. -/
theorem EndsEntry.endsValues {rest : List Token} (ends : EndsEntry rest) : EndsValues rest := by
  cases rest with
  | nil => trivial
  | cons token rest =>
      obtain ⟨lexeme, position, size⟩ := token
      cases lexeme <;> simp_all [EndsEntry, EndsValues, Lexeme.isSeparator, simpleAtom?]

/-- What ends an entry opens no group of it. -/
theorem EndsEntry.opensGroup {rest : List Token} (ends : EndsEntry rest) :
    opensGroup rest = false := by
  cases rest with
  | nil => rfl
  | cons token rest =>
      obtain ⟨lexeme, position, size⟩ := token
      cases lexeme <;> simp_all [EndsEntry, Node.opensGroup, Lexeme.isSeparator]

/-! ## Separators -/

/-- Every token among separators is one. -/
theorem Separators.isSeparator {tokens : List Token} (separators : Separators tokens)
    {token : Token} (member : token ∈ tokens) : token.lexeme.isSeparator = true := by
  rcases separators token member with isNewline | isComma
  · rw [isNewline]; rfl
  · rw [isComma]; rfl

/-- No tokens are separators too. -/
theorem Separators.nil : Separators [] :=
  List.forall_mem_nil _

/-- A separator in front of separators is one more of them. -/
theorem Separators.cons {token : Token} {separators : List Token}
    (isSeparator : token.lexeme.isSeparator = true) (separate : Separators separators) :
    Separators (token :: separators) := by
  rintro other (_ | ⟨_, member⟩)
  · obtain ⟨lexeme, position, size⟩ := token
    cases lexeme <;> simp_all [Lexeme.isSeparator]
  · exact separate other member

/-- Separators behind separators are all separators. -/
theorem Separators.append {lead separators : List Token} (leads : Separators lead)
    (separate : Separators separators) : Separators (lead ++ separators) := by
  intro token member
  exact (List.mem_append.1 member).elim (leads token) (separate token)

/-- Separators in front of other tokens are passed over. -/
theorem skipSeparators_append {separators : List Token} (separate : Separators separators)
    (rest : List Token) : skipSeparators (separators ++ rest) = skipSeparators rest := by
  unfold skipSeparators
  exact List.dropWhile_append_of_pos fun token member => separate.isSeparator member

/-- Other tokens are left alone. -/
theorem skipSeparators_cons {token : Token} {rest : List Token}
    (other : token.lexeme.isSeparator = false) :
    skipSeparators (token :: rest) = token :: rest := by
  simp [skipSeparators, other]

/-- Separators alone leave nothing. -/
theorem skipSeparators_eq_nil {separators : List Token} (separate : Separators separators) :
    skipSeparators separators = [] := by
  simpa [skipSeparators] using skipSeparators_append separate []

/-- At least one separator is read as separators. -/
theorem readSeparators_append (stop : Position) (expected : List String)
    {separators : List Token} (nonempty : separators ≠ []) (separate : Separators separators)
    (rest : List Token) :
    readSeparators stop expected (separators ++ rest) = .ok (skipSeparators rest) := by
  cases separators with
  | nil => exact absurd rfl nonempty
  | cons first others =>
      have isSeparator := separate.isSeparator List.mem_cons_self
      have othersSeparate : Separators others :=
        fun token member => separate token (List.mem_cons_of_mem first member)
      simp [readSeparators, isSeparator, skipSeparators_append othersSeparate]

/-- Separators, or a closing parenthesis, end an entry. -/
theorem Separators.endsEntry {separators rest : List Token} (separate : Separators separators)
    (ends : EndsEntry rest) : EndsEntry (separators ++ rest) := by
  cases separators with
  | nil => exact ends
  | cons first others => exact .inl (separate.isSeparator List.mem_cons_self)

/-! ## Values -/

/-- The segments of a path are read, if no dot stands behind them. -/
theorem readSegments_of_segments (stop : Position) {first last : Token} {tokens rest : List Token}
    {names : List String} (segments : Segments first tokens names last) (noDot : NoDot rest) :
    readSegments stop first.stop (tokens ++ rest) = .ok (names, last.stop, rest) := by
  induction segments with
  | nil =>
      cases rest with
      | nil => rfl
      | cons token rest =>
          obtain ⟨lexeme, position, size⟩ := token
          cases lexeme <;> simp_all [NoDot, readSegments]
  | @cons first dot word last name tokens names isDot isWord segments inductionHypothesis =>
      obtain ⟨_, dotPosition, dotSize⟩ := dot
      obtain ⟨_, position, size⟩ := word
      cases isDot
      cases isWord
      simp only [Token.stop] at inductionHypothesis
      simp only [List.cons_append, readSegments, inductionHypothesis]
      rfl

/-- A value is read, if no dot stands behind it. -/
theorem readValue_of_value (stop : Position) {tokens rest : List Token} {leaf : Leaf}
    (value : Value tokens leaf) (noDot : NoDot rest) :
    readValue stop (tokens ++ rest) = .ok (some leaf, rest) := by
  cases value with
  | @ident token name isWord =>
      have read := readSegments_of_segments stop (@Segments.nil token) noDot
      simp only [List.nil_append] at read
      simp only [List.singleton_append, readValue, isWord, read]
      simp [Token.stop, wordAtom, bind, Except.bind, pure, Except.pure]
  | @path first dot word last name second tokens more isFirst isDot isWord segments =>
      have whole : Segments first (dot :: word :: tokens) (second :: more) last :=
        .cons isDot isWord segments
      have read := readSegments_of_segments stop whole noDot
      simp only [List.cons_append, readValue, isFirst] at read ⊢
      rw [read]
      rfl
  | integer isInteger => simp [readValue, isInteger, simpleAtom?]
  | text isText => simp [readValue, isText, simpleAtom?]
  | placeholder isQuestion => simp [readValue, isQuestion, simpleAtom?]
  | comparison isComparison => simp [readValue, isComparison, simpleAtom?]

/-- No value starts with a dot. -/
theorem Value.noDot {tokens : List Token} {leaf : Leaf} (value : Value tokens leaf)
    (rest : List Token) : NoDot (tokens ++ rest) := by
  cases value <;> simp_all [NoDot]

/-- Values do not start with a dot, unless what stands behind them does. -/
theorem Values.noDot {tokens rest : List Token} {leaves : List Leaf}
    (values : Values tokens leaves) (noDot : NoDot rest) : NoDot (tokens ++ rest) := by
  cases values with
  | nil => exact noDot
  | cons first others =>
      rw [List.append_assoc]
      exact first.noDot _

/-- Where no value starts, none is read. -/
theorem readValue_of_endsValues (stop : Position) {rest : List Token} (ends : EndsValues rest) :
    readValue stop rest = .ok (none, rest) := by
  cases rest with
  | nil => rfl
  | cons token rest =>
      obtain ⟨lexeme, position, size⟩ := token
      cases lexeme <;> simp_all [EndsValues, readValue, simpleAtom?]

/-- All values are read, within a bound of their number. -/
theorem readValues_of_values (stop : Position) {tokens rest : List Token} {leaves : List Leaf}
    (values : Values tokens leaves) (ends : EndsValues rest) {bound : Nat}
    (enough : leaves.length ≤ bound) :
    readValues stop bound (tokens ++ rest) = .ok (leaves, rest) := by
  induction values generalizing bound with
  | nil =>
      cases bound with
      | zero => rfl
      | succ bound =>
          simp only [List.nil_append, readValues, readValue_of_endsValues stop ends]
          rfl
  | @cons tokens others leaf leaves first values inductionHypothesis =>
      obtain ⟨bound, rfl⟩ : ∃ less, bound = less + 1 :=
        Nat.exists_eq_add_one.2 (Nat.lt_of_lt_of_le (Nat.succ_pos _) enough)
      have read := readValue_of_value stop first (values.noDot ends.noDot)
      have further := inductionHypothesis (Nat.le_of_succ_le_succ enough)
      simp only [List.append_assoc, readValues, read, further, bind, Except.bind]
      rfl

/-- There are no more values than tokens. -/
theorem Values.length_le {tokens : List Token} {leaves : List Leaf}
    (values : Values tokens leaves) : leaves.length ≤ tokens.length := by
  induction values with
  | nil => exact Nat.le_refl 0
  | @cons tokens _ _ _ first _ inductionHypothesis =>
      have nonempty : 1 ≤ tokens.length := by
        cases first <;> simp
      simp only [List.length_append, List.length_cons]
      omega

/-! ## Heads of phrases -/

/-- A word is read as a name. -/
theorem readName_of_word (stop : Position) {word : Token} {name : String} (rest : List Token)
    (isWord : word.lexeme = .ident name) :
    readName stop (word :: rest) = .ok (⟨name, word.position⟩, rest) := by
  obtain ⟨_, position, size⟩ := word
  cases isWord
  rfl

/-- An entry starts with a word. -/
theorem Derives.entry_head {keyword : Name} {arguments : List Leaf} {groups : List (List Node)}
    {tokens : List Token} (derivation : Derives (.entry keyword arguments groups) tokens) :
    ∃ word rest name, tokens = word :: rest ∧ word.lexeme = .ident name := by
  cases derivation with
  | @entry word name _ _ _ _ isWord => exact ⟨word, _, name, rfl, isWord⟩

/-- A group starts with an opening parenthesis. -/
theorem Derives.group_head {nodes : List Node} {tokens : List Token}
    (derivation : Derives (.group nodes) tokens) :
    ∃ opening rest, tokens = opening :: rest ∧ opening.lexeme = .openParen := by
  cases derivation with
  | emptyGroup opens => exact ⟨_, _, rfl, opens⟩
  | fullGroup opens => exact ⟨_, _, rfl, opens⟩

/-- An opening parenthesis opens a group. -/
theorem opensGroup_cons {token : Token} {rest : List Token} (opens : token.lexeme = .openParen) :
    opensGroup (token :: rest) = true := by
  obtain ⟨_, position, size⟩ := token
  cases opens
  rfl

/-- A closing parenthesis closes a group. -/
theorem closesGroup_cons {token : Token} {rest : List Token}
    (closes : token.lexeme = .closeParen) : closesGroup (token :: rest) = true := by
  obtain ⟨_, position, size⟩ := token
  cases closes
  rfl

/-- Nothing but a closing parenthesis closes a group. -/
theorem closesGroup_of_ne {token : Token} {rest : List Token}
    (other : token.lexeme ≠ .closeParen) : closesGroup (token :: rest) = false := by
  obtain ⟨lexeme, position, size⟩ := token
  cases lexeme <;> simp_all [closesGroup]

/-- A group opens in front of what ends an entry exactly if there is one. -/
theorem Derives.groups_opens {groups : List (List Node)} {tokens rest : List Token}
    (derivation : Derives (.groups groups) tokens) (ends : EndsEntry rest) :
    opensGroup (tokens ++ rest) = !groups.isEmpty := by
  cases derivation with
  | noGroups => exact ends.opensGroup
  | moreGroups first others =>
      obtain ⟨opening, inside, rfl, opens⟩ := first.group_head
      exact opensGroup_cons opens

/-- Groups end the values in front of them. -/
theorem Derives.groups_endsValues {groups : List (List Node)} {tokens rest : List Token}
    (derivation : Derives (.groups groups) tokens) (ends : EndsEntry rest) :
    EndsValues (tokens ++ rest) := by
  cases derivation with
  | noGroups => exact ends.endsValues
  | moreGroups first others =>
      obtain ⟨opening, inside, rfl, opens⟩ := first.group_head
      simp [EndsValues, opens, simpleAtom?]

/-- Further entries of a group end the entry in front of them. -/
theorem Derives.others_endsEntry {nodes : List Node} {tokens rest : List Token}
    (derivation : Derives (.others nodes) tokens) (ends : EndsEntry rest) :
    EndsEntry (tokens ++ rest) := by
  cases derivation with
  | noOthers => exact ends
  | moreOthers nonempty separate first others =>
      obtain ⟨separator, separators, rfl⟩ := List.exists_cons_of_ne_nil nonempty
      exact .inl (separate.isSeparator List.mem_cons_self)

/-- Separators are passed over up to the entry behind them. -/
theorem Derives.skipSeparators_entry {keyword : Name} {arguments : List Leaf}
    {groups : List (List Node)} {tokens : List Token}
    (derivation : Derives (.entry keyword arguments groups) tokens) (rest : List Token) :
    skipSeparators (tokens ++ rest) = tokens ++ rest := by
  obtain ⟨word, more, name, rfl, isWord⟩ := derivation.entry_head
  exact skipSeparators_cons (by simp [isWord, Lexeme.isSeparator])

/-- An entry is not a closing parenthesis. -/
theorem Derives.closesGroup_entry {keyword : Name} {arguments : List Leaf}
    {groups : List (List Node)} {tokens : List Token}
    (derivation : Derives (.entry keyword arguments groups) tokens) (rest : List Token) :
    closesGroup (tokens ++ rest) = false := by
  obtain ⟨word, more, name, rfl, isWord⟩ := derivation.entry_head
  exact closesGroup_of_ne (by simp [isWord])

/-! ## Entries and groups -/

/-- Read what stands in a group behind an entry, up to and including its end. -/
def readMore (stop : Position) (bound : Nat) (tokens : List Token) :
    Except ReadError (List Node × List Token) :=
  if closesGroup tokens then .ok ([], tokens.tail)
  else do
    let rest ← readSeparators stop [",", "newline", ")"] tokens
    readItems stop bound rest

/-- Unless a group ends at once, it is an entry and what stands behind it. -/
theorem readItems_succ (stop : Position) (bound : Nat) {tokens : List Token}
    (goesOn : closesGroup tokens = false) :
    readItems stop (bound + 1) tokens = (do
      let (entry, rest) ← readEntry stop bound tokens
      let (entries, rest) ← readMore stop bound rest
      return (entry :: entries, rest)) := by
  simp only [readItems, goesOn, Bool.false_eq_true, if_false]
  congr
  funext ⟨entry, rest⟩
  unfold readMore
  by_cases closes : closesGroup rest = true
  · simp [closes, bind, Except.bind]
  · simp [closes]

/-- Behind separators a group goes on. -/
theorem readMore_separators (stop : Position) (bound : Nat) {separators : List Token}
    (nonempty : separators ≠ []) (separate : Separators separators) (rest : List Token) :
    readMore stop bound (separators ++ rest) = readItems stop bound (skipSeparators rest) := by
  have goesOn : closesGroup (separators ++ rest) = false := by
    obtain ⟨separator, others, rfl⟩ := List.exists_cons_of_ne_nil nonempty
    apply closesGroup_of_ne
    have isSeparator := separate.isSeparator List.mem_cons_self
    intro isClosing
    simp [isClosing, Lexeme.isSeparator] at isSeparator
  rw [readMore, goesOn, readSeparators_append stop _ nonempty separate]
  rfl

/--
A phrase is read: its reader takes exactly the tokens of the phrase, whatever ends it
behind them, within a bound of about twice their number.
-/
def Reads (stop : Position) : Phrase → List Token → Prop
  | .entry keyword arguments groups, tokens => ∀ rest bound, EndsEntry rest →
      2 * tokens.length ≤ bound →
      readEntry stop bound (tokens ++ rest) = .ok (itemNode keyword arguments groups, rest)
  | .groups groups, tokens => ∀ rest bound, EndsEntry rest → 2 * tokens.length + 1 ≤ bound →
      readGroups stop bound (tokens ++ rest) = .ok (groups.flatten, rest)
  | .group nodes, tokens => ∀ rest bound, 2 * tokens.length ≤ bound + 2 →
      readItems stop bound (skipSeparators (tokens ++ rest).tail) = .ok (nodes, rest)
  | .others nodes, tokens => ∀ trail closing rest bound, Separators trail →
      closing.lexeme = .closeParen → 2 * tokens.length + 1 ≤ bound →
      readMore stop bound (tokens ++ (trail ++ closing :: rest)) = .ok (nodes, rest)

/-- An entry is read back if its groups are. -/
theorem reads_entry {stop : Position} {word : Token} {name : String}
    {values tokens : List Token} {arguments : List Leaf} {groups : List (List Node)}
    (isWord : word.lexeme = .ident name) (isValues : Values values arguments)
    (isGroups : Derives (.groups groups) tokens) (reads : Reads stop (.groups groups) tokens) :
    Reads stop (.entry ⟨name, word.position⟩ arguments groups) (word :: (values ++ tokens)) := by
  intro rest bound ends enough
  simp only [List.length_cons, List.length_append] at enough
  obtain ⟨bound, rfl⟩ : ∃ less, bound = less + 1 := Nat.exists_eq_add_one.2 (by omega)
  have readsValues : readValues stop (values ++ (tokens ++ rest)).length
      (values ++ (tokens ++ rest)) = .ok (arguments, tokens ++ rest) := by
    apply readValues_of_values stop isValues (isGroups.groups_endsValues ends)
    have few := isValues.length_le
    simp only [List.length_append]
    omega
  have readsGroups := reads rest bound ends (by omega)
  have opens := isGroups.groups_opens ends
  simp only [List.cons_append, List.append_assoc, readEntry, readName_of_word stop _ isWord,
    bind, Except.bind, readsValues, opens, Bool.not_not]
  by_cases bare : arguments = [] ∧ groups = []
  · obtain ⟨rfl, rfl⟩ := bare
    cases isGroups
    rfl
  · have notBare : (arguments.isEmpty && groups.isEmpty) = false := by
      simpa [List.isEmpty_iff] using bare
    rw [notBare, readsGroups, itemNode, if_neg bare]
    rfl

/-- Groups are read back one after another. -/
theorem reads_groups {stop : Position} {tokens rest : List Token} {nodes : List Node}
    {groups : List (List Node)} (first : Derives (.group nodes) tokens)
    (readsFirst : Reads stop (.group nodes) tokens)
    (readsOthers : Reads stop (.groups groups) rest) :
    Reads stop (.groups (nodes :: groups)) (tokens ++ rest) := by
  intro behind bound ends enough
  simp only [List.length_append] at enough
  obtain ⟨bound, rfl⟩ : ∃ less, bound = less + 1 := Nat.exists_eq_add_one.2 (by omega)
  obtain ⟨opening, inside, rfl, opens⟩ := first.group_head
  simp only [List.length_cons] at enough
  have readsItems := readsFirst (rest ++ behind) bound (by simp only [List.length_cons]; omega)
  have readsGroups := readsOthers behind bound ends (by omega)
  simp only [List.append_assoc, List.cons_append, List.tail_cons] at readsItems ⊢
  simp only [readGroups, opensGroup_cons opens, if_true, List.tail_cons, readsItems, readsGroups,
    bind, Except.bind]
  rfl

/-- A group without items is read back, whatever separators stand in it. -/
theorem reads_emptyGroup {stop : Position} {opening closing : Token} {lead trail : List Token}
    (leads : Separators lead) (trails : Separators trail)
    (closes : closing.lexeme = .closeParen) :
    Reads stop (.group []) (opening :: (lead ++ (trail ++ [closing]))) := by
  intro rest bound enough
  simp only [List.length_cons, List.length_append] at enough
  obtain ⟨bound, rfl⟩ : ∃ less, bound = less + 1 := Nat.exists_eq_add_one.2 (by omega)
  have notSeparator : closing.lexeme.isSeparator = false := by rw [closes]; rfl
  have skipped : skipSeparators (lead ++ (trail ++ closing :: rest)) = closing :: rest := by
    rw [skipSeparators_append leads, skipSeparators_append trails,
      skipSeparators_cons notSeparator]
  simp [skipped, readItems, closesGroup_cons closes]

/-- A group with items is read back if its first item and the others are. -/
theorem reads_fullGroup {stop : Position} {opening closing : Token}
    {lead tokens rest trail : List Token} {keyword : Name} {arguments : List Leaf}
    {groups : List (List Node)} {nodes : List Node} (leads : Separators lead)
    (first : Derives (.entry keyword arguments groups) tokens)
    (readsFirst : Reads stop (.entry keyword arguments groups) tokens)
    (others : Derives (.others nodes) rest) (readsOthers : Reads stop (.others nodes) rest)
    (trails : Separators trail) (closes : closing.lexeme = .closeParen) :
    Reads stop (.group (itemNode keyword arguments groups :: nodes))
      (opening :: (lead ++ (tokens ++ (rest ++ (trail ++ [closing]))))) := by
  intro behind bound enough
  simp only [List.length_cons, List.length_append] at enough
  obtain ⟨bound, rfl⟩ : ∃ less, bound = less + 1 := Nat.exists_eq_add_one.2 (by omega)
  have ends : EndsEntry (rest ++ (trail ++ closing :: behind)) :=
    others.others_endsEntry (trails.endsEntry (.inr closes))
  have readsEntry := readsFirst _ bound ends (by omega)
  have readsMore := readsOthers trail closing behind bound trails closes (by omega)
  have shape : (opening :: (lead ++ (tokens ++ (rest ++ (trail ++ [closing])))) ++ behind).tail =
      lead ++ (tokens ++ (rest ++ (trail ++ closing :: behind))) := by simp
  rw [shape, skipSeparators_append leads, first.skipSeparators_entry,
    readItems_succ stop bound (first.closesGroup_entry _), readsEntry]
  simp only [bind, Except.bind, readsMore]
  rfl

/-- Where there are no other items, none are read. -/
theorem reads_noOthers {stop : Position} : Reads stop (.others []) [] := by
  intro trail closing rest bound trails closes enough
  simp only [List.length_nil] at enough
  obtain ⟨bound, rfl⟩ : ∃ less, bound = less + 1 := Nat.exists_eq_add_one.2 (by omega)
  have notSeparator : closing.lexeme.isSeparator = false := by rw [closes]; rfl
  by_cases nonempty : trail = []
  · simp [nonempty, readMore, closesGroup_cons closes]
  · rw [List.nil_append, readMore_separators stop _ nonempty trails,
      skipSeparators_cons notSeparator]
    simp [readItems, closesGroup_cons closes]

/-- Another item is read back behind its separators, and then the rest. -/
theorem reads_moreOthers {stop : Position} {separators tokens rest : List Token}
    {keyword : Name} {arguments : List Leaf} {groups : List (List Node)} {nodes : List Node}
    (nonempty : separators ≠ []) (separate : Separators separators)
    (first : Derives (.entry keyword arguments groups) tokens)
    (readsFirst : Reads stop (.entry keyword arguments groups) tokens)
    (others : Derives (.others nodes) rest) (readsOthers : Reads stop (.others nodes) rest) :
    Reads stop (.others (itemNode keyword arguments groups :: nodes))
      (separators ++ (tokens ++ rest)) := by
  intro trail closing behind bound trails closes enough
  simp only [List.length_append] at enough
  obtain ⟨bound, rfl⟩ : ∃ less, bound = less + 1 := Nat.exists_eq_add_one.2 (by omega)
  have separatorsPos := List.length_pos_iff.2 nonempty
  have ends : EndsEntry (rest ++ (trail ++ closing :: behind)) :=
    others.others_endsEntry (trails.endsEntry (.inr closes))
  have readsEntry := readsFirst _ bound ends (by omega)
  have readsMore := readsOthers trail closing behind bound trails closes (by omega)
  rw [List.append_assoc, List.append_assoc, readMore_separators stop _ nonempty separate,
    first.skipSeparators_entry, readItems_succ stop bound (first.closesGroup_entry _), readsEntry]
  simp only [bind, Except.bind, readsMore]
  rfl

/-- Every phrase that the grammar derives is read. -/
theorem Derives.reads (stop : Position) {phrase : Phrase} {tokens : List Token}
    (derivation : Derives phrase tokens) : Reads stop phrase tokens := by
  induction derivation with
  | entry isWord isValues isGroups readsGroups =>
      exact reads_entry isWord isValues isGroups readsGroups
  | noGroups =>
      intro rest bound ends enough
      obtain ⟨bound, rfl⟩ : ∃ less, bound = less + 1 := Nat.exists_eq_add_one.2 (by omega)
      simp [readGroups, ends.opensGroup]
  | moreGroups first _ readsFirst readsOthers => exact reads_groups first readsFirst readsOthers
  | emptyGroup _ leads trails closes => exact reads_emptyGroup leads trails closes
  | fullGroup _ leads first others trails closes readsFirst readsOthers =>
      exact reads_fullGroup leads first readsFirst others readsOthers trails closes
  | noOthers => exact reads_noOthers
  | moreOthers nonempty separate first others readsFirst readsOthers =>
      exact reads_moreOthers nonempty separate first readsFirst others readsOthers

/-! ## Files -/

/-- What an entry is read as, taken as a statement. -/
theorem asStatement_itemNode (keyword : Name) (arguments : List Leaf)
    (groups : List (List Node)) :
    (itemNode keyword arguments groups).asStatement = statementNode keyword arguments groups := by
  by_cases bare : arguments = [] ∧ groups = []
  · obtain ⟨rfl, rfl⟩ := bare
    rfl
  · rw [itemNode, if_neg bare]
    rfl

/-- A statement in front of separators is read, and reading goes on behind them. -/
theorem readStatements_entry (stop : Position) {tokens separators : List Token} {keyword : Name}
    {arguments : List Leaf} {groups : List (List Node)} {bound : Nat}
    (first : Derives (.entry keyword arguments groups) tokens) (nonempty : separators ≠ [])
    (separate : Separators separators) (enough : 2 * tokens.length ≤ bound)
    (rest : List Token) :
    readStatements stop (bound + 1) (tokens ++ (separators ++ rest)) = (do
      let nodes ← readStatements stop bound (skipSeparators rest)
      return statementNode keyword arguments groups :: nodes) := by
  have ends : EndsEntry (separators ++ rest) := by
    obtain ⟨separator, others, rfl⟩ := List.exists_cons_of_ne_nil nonempty
    exact .inl (separate.isSeparator List.mem_cons_self)
  have readsEntry := first.reads stop (separators ++ rest) bound ends enough
  have someTokens : (tokens ++ (separators ++ rest)).isEmpty = false := by
    simp [nonempty]
  have someRest : (separators ++ rest).isEmpty = false := by
    simp [nonempty]
  simp only [readStatements, someTokens, Bool.false_eq_true, if_false, readsEntry, bind,
    Except.bind, someRest, readSeparators_append stop _ nonempty separate, asStatement_itemNode]

/-- Statements and a last one are read, within a bound of about twice the number of tokens. -/
theorem readStatements_of_statements (stop : Position) {tokens last trail : List Token}
    {nodes lastNodes : List Node} (statements : Statements tokens nodes)
    (lastStatement : LastStatement last lastNodes) (trails : Separators trail) {bound : Nat}
    (enough : 2 * (tokens ++ (last ++ trail)).length + 1 ≤ bound) :
    readStatements stop bound (skipSeparators (tokens ++ (last ++ trail))) =
      .ok (nodes ++ lastNodes) := by
  induction statements generalizing bound with
  | nil =>
      obtain ⟨bound, rfl⟩ : ∃ less, bound = less + 1 := Nat.exists_eq_add_one.2 (by omega)
      cases lastStatement with
      | none => simp [skipSeparators_eq_nil trails, readStatements]
      | some entry =>
          simp only [List.nil_append, List.length_append] at enough ⊢
          rw [entry.skipSeparators_entry]
          by_cases nonempty : trail = []
          · subst nonempty
            have readsEntry := entry.reads stop [] bound trivial (by omega)
            obtain ⟨word, more, name, rfl, -⟩ := entry.entry_head
            simp only [List.append_nil, readStatements] at readsEntry ⊢
            simp [readsEntry, bind, Except.bind, asStatement_itemNode, pure, Except.pure]
          · have positive := List.length_pos_iff.2 nonempty
            have step := readStatements_entry stop entry nonempty trails
              (show 2 * _ ≤ bound by omega) []
            rw [List.append_nil] at step
            obtain ⟨bound, rfl⟩ : ∃ less, bound = less + 1 := Nat.exists_eq_add_one.2 (by omega)
            rw [step]
            rfl
  | @cons tokens separators rest keyword arguments groups nodes first nonempty separate others
      inductionHypothesis =>
      have positive := List.length_pos_iff.2 nonempty
      simp only [List.length_append] at enough inductionHypothesis
      obtain ⟨bound, rfl⟩ : ∃ less, bound = less + 1 := Nat.exists_eq_add_one.2 (by omega)
      have further := inductionHypothesis (show _ ≤ bound by omega)
      rw [List.append_assoc, List.append_assoc, first.skipSeparators_entry,
        readStatements_entry stop first nonempty separate (by omega), further]
      rfl

/-- A file that the grammar derives is read as the derivation says. -/
theorem File.read_eq_ok {list : TokenList} {nodes : List Node} (file : File list.tokens nodes) :
    Node.read list = .ok nodes := by
  obtain ⟨tokens, stop⟩ := list
  rw [Node.read]
  dsimp only at file ⊢
  cases file with
  | intro leads statements lastStatement trails =>
      rw [skipSeparators_append leads]
      apply readStatements_of_statements stop statements lastStatement trails
      simp only [List.length_append]
      omega

end Schemata.Grammar
