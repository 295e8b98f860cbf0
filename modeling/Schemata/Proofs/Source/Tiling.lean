import Schemata.Proofs.Source.Lexing
import Schemata.Proofs.Source.Places

/-!
# How tokens lie in their source

A scan leaves no part of the source out: it passes over blanks and comments, takes the text of a
lexeme, and goes on behind it. A comment is followed by a newline or the end, so whatever stands
between two tokens of one line is blank. `Cuts` says that a text is cut into tokens up to a rest;
`Remain` says of a list of tokens that the rest of a source is cut into them up to its end. It holds
of all tokens of a source, and with them of every rest of the list.
-/

namespace Schemata

open Lexeme

/-! ## Blanks and comments -/

/-- Blanks and comments before a rest; a comment goes on to the next newline or to the end. -/
inductive Skipped : (gap rest : List Char) → Prop where
  | nil {rest : List Char} : Skipped [] rest
  | blank {c : Char} {gap rest : List Char} (isBlank : isBlank c = true)
      (others : Skipped gap rest) : Skipped (c :: gap) rest
  | comment {opening body rest : List Char} (opens : opening = ['#'] ∨ opening = ['/', '/'])
      (sameLine : ∀ c ∈ body, c ≠ '\n') (ends : ∀ c ∈ rest.head?, c = '\n') :
      Skipped (opening ++ body) rest

/-- A blank is no newline. -/
theorem ne_newline_of_isBlank {c : Char} (blank : isBlank c = true) : c ≠ '\n' := by
  rintro rfl
  cases blank

namespace Skipped

variable {gap rest : List Char}

/-- No newline is skipped. -/
theorem ne_newline (skipped : Skipped gap rest) : ∀ c ∈ gap, c ≠ '\n' := by
  induction skipped with
  | nil => exact List.forall_mem_nil _
  | blank isBlank _ inductionHypothesis =>
      exact List.forall_mem_cons.2 ⟨ne_newline_of_isBlank isBlank, inductionHypothesis⟩
  | comment opens sameLine _ =>
      rw [List.forall_mem_append]
      rcases opens with rfl | rfl
      · exact ⟨by simp, sameLine⟩
      · exact ⟨by simp, sameLine⟩

/-- There are only blanks, or a newline or the end comes next. -/
theorem blank_or_ends (skipped : Skipped gap rest) :
    (∀ c ∈ gap, isBlank c = true) ∨ ∀ c ∈ rest.head?, c = '\n' := by
  induction skipped with
  | nil => exact .inl (List.forall_mem_nil _)
  | blank isBlank _ inductionHypothesis =>
      rcases inductionHypothesis with allBlank | ends
      · exact .inl (List.forall_mem_cons.2 ⟨isBlank, allBlank⟩)
      · exact .inr ends
  | comment _ _ ends => exact .inr ends

/-- Before every token but a newline, only blanks were passed over. -/
theorem all_blank {spelled : List Char} {lexeme : Lexeme}
    (skipped : Skipped gap (spelled ++ rest)) (rule : Rule spelled (some lexeme))
    (visible : lexeme ≠ .newline) : ∀ c ∈ gap, isBlank c = true := by
  rcases skipped.blank_or_ends with allBlank | ends
  · exact allBlank
  · cases spelled with
    | nil => exact absurd rfl rule.ne_nil
    | cons c others =>
        exact absurd (ends c rfl) (rule.ne_newline visible c List.mem_cons_self)

end Skipped

/-- In a comment, everything up to the next newline is passed over. -/
theorem skipBlanks_comment (position : Position) (text : List Char) :
    ∃ body rest, skipBlanks true position text = (position.advanceBy body, rest) ∧
      text = body ++ rest ∧ (∀ c ∈ body, c ≠ '\n') ∧ ∀ c ∈ rest.head?, c = '\n' := by
  induction text generalizing position with
  | nil => exact ⟨[], [], rfl, rfl, by simp, by simp⟩
  | cons c text inductionHypothesis =>
      by_cases isNewline : c = '\n'
      · subst isNewline
        exact ⟨[], '\n' :: text, rfl, rfl, by simp, by simp⟩
      · obtain ⟨body, rest, skipped, rfl, sameLine, ends⟩ :=
          inductionHypothesis (position.advance c)
        refine ⟨c :: body, rest, ?_, rfl, List.forall_mem_cons.2 ⟨isNewline, sameLine⟩, ends⟩
        simp [skipBlanks, isNewline, skipped]

/-- What is passed over is blanks and comments, and the position follows them. -/
theorem exists_skipped (position : Position) (text : List Char) :
    ∃ gap rest, skipBlanks false position text = (position.advanceBy gap, rest) ∧
      text = gap ++ rest ∧ Skipped gap rest := by
  induction text generalizing position with
  | nil => exact ⟨[], [], rfl, rfl, .nil⟩
  | cons c text inductionHypothesis =>
      by_cases blank : isBlank c = true
      · obtain ⟨gap, rest, skipped, rfl, isSkipped⟩ := inductionHypothesis (position.advance c)
        exact ⟨c :: gap, rest, by simp [skipBlanks, blank, skipped], rfl, .blank blank isSkipped⟩
      · by_cases isHash : c = '#'
        · subst isHash
          obtain ⟨body, rest, skipped, rfl, sameLine, ends⟩ :=
            skipBlanks_comment (position.advance '#') text
          refine ⟨'#' :: body, rest, ?_, rfl, .comment (.inl rfl) sameLine ends⟩
          simp [skipBlanks, blank, skipped]
        · by_cases slashes : c = '/' ∧ text.head? = some '/'
          · obtain ⟨rfl, follows⟩ := slashes
            obtain ⟨text, rfl⟩ := List.head?_eq_some_iff.1 follows
            obtain ⟨body, rest, skipped, rfl, sameLine, ends⟩ :=
              skipBlanks_comment ((position.advance '/').advance '/') text
            refine ⟨'/' :: '/' :: body, rest, ?_, rfl, .comment (.inr rfl) sameLine ends⟩
            simp [skipBlanks, blank, skipped]
          · exact ⟨[], c :: text, by simp [skipBlanks, blank, isHash, slashes], rfl, .nil⟩

/-! ## Steps of a scan -/

/-- What a step of a scan can do: come to the end, stop at an unreadable text, or take a lexeme. -/
inductive Advances (position : Position) (text : List Char) : Scan → Scanner → Prop where
  | stop (between : Skipped text []) :
      Advances position text (.stop (position.advanceBy text))
        ⟨position.advanceBy text, [], true⟩
  | unreadable {gap unread rest : List Char} (whole : text = gap ++ (unread ++ rest))
      (between : Skipped gap (unread ++ rest)) (refused : Refused unread rest) :
      Advances position text (.unreadable ⟨position.advanceBy gap, String.ofList unread⟩)
        ⟨position.advanceBy gap, unread ++ rest, true⟩
  | token {gap spelled rest : List Char} {lexeme : Lexeme} (whole : text = gap ++ (spelled ++ rest))
      (between : Skipped gap (spelled ++ rest)) (longest : Longest spelled rest (some lexeme)) :
      Advances position text (.token ⟨lexeme, position.advanceBy gap, byteLength spelled⟩)
        ⟨position.advanceBy (gap ++ spelled), rest, false⟩

/-- A scan that is not finished takes a step. -/
theorem exists_advances (position : Position) (text : List Char) :
    ∃ scan after, (Scanner.mk position text false).next? = some (scan, after) ∧
      Advances position text scan after := by
  obtain ⟨gap, rest, skipped, rfl, between⟩ := exists_skipped position text
  cases rest with
  | nil =>
      rw [List.append_nil] at skipped ⊢
      refine ⟨_, _, ?_, .stop between⟩
      simp [Scanner.next?, skipped]
  | cons c rest =>
      have whole := (munch_reads c rest).whole
      rw [whole] at between
      cases found : (munch c rest).lexeme with
      | none =>
          refine ⟨_, _, ?_, .unreadable (congrArg (gap ++ ·) whole) between
            (refused_of_munch found)⟩
          simp [Scanner.next?, skipped, found, ← whole]
      | some lexeme =>
          refine ⟨_, _, ?_, .token (congrArg (gap ++ ·) whole) between (longest_of_munch found)⟩
          simp [Scanner.next?, skipped, found, Position.advanceBy_append]

/-- A run with one more step starts with the next scan. -/
theorem run_succ {scanner after : Scanner} {scan : Scan} (steps : Nat)
    (stepped : scanner.next? = some (scan, after)) :
    scanner.run (steps + 1) = scan :: after.run steps := by
  rw [Scanner.run, stepped]

/-- A scan that is finished finds nothing more. -/
theorem run_finished (steps : Nat) (position : Position) (rest : List Char) :
    Scanner.run steps ⟨position, rest, true⟩ = [] := by
  cases steps <;> rfl

/-! ## Tokens of a source -/

/-- Behind a front part, a text is cut into tokens, up to a rest. -/
inductive Cuts : (front text : List Char) → List Token → (rest : List Char) → Prop where
  | stop {front gap rest : List Char} (between : Skipped gap rest) :
      Cuts front (gap ++ rest) [] rest
  | token {front gap spelled behind rest : List Char} {lexeme : Lexeme} {tokens : List Token}
      (between : Skipped gap (spelled ++ behind)) (longest : Longest spelled behind (some lexeme))
      (others : Cuts (front ++ (gap ++ spelled)) behind tokens rest) :
      Cuts front (gap ++ (spelled ++ behind))
        (⟨lexeme, Position.start.advanceBy (front ++ gap), byteLength spelled⟩ :: tokens) rest

/-- How a scan of a text ends: behind the text, or before a rest that is refused. -/
inductive Ends (front text : List Char) : (rest : List Char) → Scan → Prop where
  | stop : Ends front text [] (.stop (Position.start.advanceBy (front ++ text)))
  | unreadable {passed unread behind : List Char} (whole : text = passed ++ (unread ++ behind))
      (refused : Refused unread behind) :
      Ends front text (unread ++ behind)
        (.unreadable ⟨Position.start.advanceBy (front ++ passed), String.ofList unread⟩)

/-- What a scan finds in a text has the same end as what it finds behind the first token. -/
theorem Ends.append {front passed text rest : List Char} {scan : Scan}
    (ends : Ends (front ++ passed) text rest scan) : Ends front (passed ++ text) rest scan := by
  cases ends with
  | stop =>
      rw [List.append_assoc]
      exact .stop
  | @unreadable behindPassed unread behind whole refused =>
      rw [List.append_assoc]
      exact .unreadable (by rw [whole, List.append_assoc]) refused

/-- A scan with enough steps cuts the whole text into tokens, up to where it ends. -/
theorem run_cuts {steps : Nat} {front text : List Char} (enough : text.length < steps) :
    ∃ tokens rest scan, Scanner.run steps ⟨Position.start.advanceBy front, text, false⟩ =
      tokens.map .token ++ [scan] ∧ Cuts front text tokens rest ∧ Ends front text rest scan := by
  induction steps generalizing front text with
  | zero => omega
  | succ steps inductionHypothesis =>
      obtain ⟨scan, after, stepped, advances⟩ :=
        exists_advances (Position.start.advanceBy front) text
      rw [run_succ steps stepped]
      cases advances with
      | stop between =>
          rw [← Position.advanceBy_append, run_finished]
          have cuts := @Cuts.stop front _ _ between
          rw [List.append_nil] at cuts
          exact ⟨[], [], _, rfl, cuts, .stop⟩
      | @unreadable gap unread rest whole between refused =>
          rw [← Position.advanceBy_append, run_finished]
          subst whole
          exact ⟨[], unread ++ rest, _, rfl, .stop between, .unreadable rfl refused⟩
      | @token gap spelled rest lexeme whole between longest =>
          subst whole
          have shorter : rest.length < steps := by
            have positive := List.length_pos_of_ne_nil longest.rule.ne_nil
            simp only [List.length_append] at enough
            omega
          obtain ⟨tokens, behind, scan, ran, cuts, ends⟩ :=
            @inductionHypothesis (front ++ (gap ++ spelled)) rest shorter
          rw [← Position.advanceBy_append, ← Position.advanceBy_append, ran]
          refine ⟨_ :: tokens, behind, scan, rfl, .token between longest cuts, ?_⟩
          rw [← List.append_assoc]
          exact ends.append

/-- Tokens up to the end of a source are its tokens. -/
theorem ofScans_stop (tokens : List Token) (stop : Position) :
    TokenList.ofScans (tokens.map .token ++ [.stop stop]) = .ok ⟨tokens, stop⟩ := by
  induction tokens with
  | nil => rfl
  | cons token tokens inductionHypothesis =>
      rw [List.map_cons, List.cons_append, TokenList.ofScans, inductionHypothesis]

/-- Tokens up to something unreadable are refused because of it. -/
theorem ofScans_unreadable (tokens : List Token) (problem : Unreadable) :
    TokenList.ofScans (tokens.map .token ++ [.unreadable problem]) = .error problem := by
  induction tokens with
  | nil => rfl
  | cons token tokens inductionHypothesis =>
      rw [List.map_cons, List.cons_append, TokenList.ofScans, inductionHypothesis]

/-- A source that is cut into tokens was scanned up to its end. -/
theorem cuts_of_tokenize {source : String} {list : TokenList}
    (tokenized : tokenize source = .ok list) :
    (Scanner.ofSource source).remaining = list.tokens.map .token ++ [.stop list.stop] ∧
      Cuts [] source.toList list.tokens [] ∧
      list.stop = Position.start.advanceBy source.toList := by
  obtain ⟨tokens, rest, scan, ran, cuts, ends⟩ :=
    @run_cuts _ [] source.toList (Nat.lt_succ_self _)
  have scanned : (Scanner.ofSource source).remaining = tokens.map .token ++ [scan] := ran
  rw [tokenize, scanned] at tokenized
  cases ends with
  | stop =>
      rw [ofScans_stop] at tokenized
      obtain rfl := Except.ok.inj tokenized
      exact ⟨scanned, cuts, rfl⟩
  | unreadable =>
      rw [ofScans_unreadable] at tokenized
      cases tokenized

/-- A source that is not cut into tokens was scanned up to what is refused. -/
theorem cuts_of_tokenize_error {source : String} {problem : Unreadable}
    (refused : tokenize source = .error problem) :
    ∃ tokens passed unread behind,
      (Scanner.ofSource source).remaining = tokens.map .token ++ [.unreadable problem] ∧
        source.toList = passed ++ (unread ++ behind) ∧
        Cuts [] source.toList tokens (unread ++ behind) ∧ Refused unread behind ∧
        problem = ⟨Position.start.advanceBy passed, String.ofList unread⟩ := by
  obtain ⟨tokens, rest, scan, ran, cuts, ends⟩ :=
    @run_cuts _ [] source.toList (Nat.lt_succ_self _)
  have scanned : (Scanner.ofSource source).remaining = tokens.map .token ++ [scan] := ran
  rw [tokenize, scanned] at refused
  cases ends with
  | stop =>
      rw [ofScans_stop] at refused
      cases refused
  | @unreadable passed unread behind whole isRefused =>
      rw [ofScans_unreadable] at refused
      obtain rfl := Except.error.inj refused
      exact ⟨tokens, passed, unread, behind, scanned, whole, cuts, isRefused, rfl⟩

/-- Tokens come behind what was passed over before them. -/
theorem Cuts.offset_le {front text rest : List Char} {tokens : List Token}
    (cuts : Cuts front text tokens rest) :
    ∀ token ∈ tokens, byteLength front ≤ token.position.offset := by
  induction cuts with
  | stop => simp
  | token between spells others inductionHypothesis =>
      refine List.forall_mem_cons.2 ⟨?_, fun token member => ?_⟩
      · rw [Position.offset_advanceBy, byteLength_append]
        omega
      · have later := inductionHypothesis token member
        rw [byteLength_append] at later
        omega

/-- The rest of a source is cut into these tokens, and ends where they say. -/
def Remain (source : String) (tokens : List Token) (stop : Position) : Prop :=
  stop = Position.start.advanceBy source.toList ∧
    ∃ front text, source.toList = front ++ text ∧ Cuts front text tokens []

/-- At the start of a source, all its tokens remain. -/
theorem remain_of_tokenize {source : String} {list : TokenList}
    (tokenized : tokenize source = .ok list) : Remain source list.tokens list.stop := by
  obtain ⟨-, cuts, stops⟩ := cuts_of_tokenize tokenized
  exact ⟨stops, [], source.toList, rfl, cuts⟩

/-- What cannot be read is found at a place of the source. -/
theorem isPlace_of_tokenize {source : String} {problem : Unreadable}
    (refused : tokenize source = .error problem) : IsPlace source problem.position := by
  obtain ⟨-, passed, unread, behind, -, whole, -, -, rfl⟩ := cuts_of_tokenize_error refused
  exact ⟨passed, unread ++ behind, whole, rfl⟩

namespace Remain

variable {source : String} {token first dot word : Token} {tokens used rest : List Token}
  {stop : Position}

/-- The end of the tokens is a place of the source. -/
theorem isPlace_stop (remain : Remain source tokens stop) : IsPlace source stop := by
  exact ⟨source.toList, [], (List.append_nil _).symm, remain.1⟩

/-- The tokens behind the first one remain. -/
theorem tail (remain : Remain source (token :: tokens) stop) : Remain source tokens stop := by
  obtain ⟨stops, front, text, whole, cuts⟩ := remain
  cases cuts with
  | @token _ gap spelled behind _ _ _ between spells others =>
      exact ⟨stops, front ++ (gap ++ spelled), behind, by rw [whole]; simp, others⟩

/-- The tokens behind some others remain. -/
theorem of_append (remain : Remain source (used ++ rest) stop) : Remain source rest stop := by
  induction used with
  | nil => exact remain
  | cons token used inductionHypothesis => exact inductionHypothesis remain.tail

/-- A token stands in the source as it is spelled. -/
theorem exists_standsAt (remain : Remain source (token :: tokens) stop) :
    ∃ spelled, Rule spelled (some token.lexeme) ∧ StandsAt source token.position spelled ∧
      token.size = byteLength spelled := by
  obtain ⟨-, front, text, whole, cuts⟩ := remain
  cases cuts with
  | @token _ gap spelled behind _ _ _ between longest others =>
      exact ⟨spelled, longest.rule, ⟨front ++ gap, behind, by rw [whole]; simp, rfl⟩, rfl⟩

/-- The first of the tokens is at a place of the source. -/
theorem isPlace (remain : Remain source (token :: tokens) stop) :
    IsPlace source token.position := by
  obtain ⟨spelled, -, stands, -⟩ := remain.exists_standsAt
  exact stands.isPlace

/-- A word stands in the source. -/
theorem standsAt_word {name : String} (remain : Remain source (token :: tokens) stop)
    (isWord : token.lexeme = .ident name) :
    StandsAt source token.position name.toList ∧ IsWord name := by
  obtain ⟨spelled, rule, stands, -⟩ := remain.exists_standsAt
  rw [isWord] at rule
  obtain ⟨rfl, word⟩ := rule.word_eq
  exact ⟨stands, word⟩

/-- Tokens come behind the tokens before them. -/
theorem stop_le (remain : Remain source (token :: tokens) stop) :
    ∀ later ∈ tokens, token.stop ≤ later.position.offset := by
  obtain ⟨stops, front, text, whole, cuts⟩ := remain
  cases cuts with
  | @token _ gap spelled behind _ _ _ between spells others =>
      intro later member
      have behind := others.offset_le later member
      rw [Token.stop, Position.offset_advanceBy]
      simp only [byteLength_append] at behind ⊢
      exact Nat.le_trans (by simp [Position.start, Nat.add_assoc]) behind

end Remain

/-- Where a scan found something. -/
def Scan.position : Scan → Position
  | .token found => found.position
  | .stop place => place
  | .unreadable problem => problem.position

/-- Everything that a scan finds, it finds at a place of the source. -/
theorem isPlace_of_mem_run {source : String} (steps : Nat) {front text : List Char}
    (whole : source.toList = front ++ text) :
    ∀ scan ∈ Scanner.run steps ⟨Position.start.advanceBy front, text, false⟩,
      IsPlace source scan.position := by
  induction steps generalizing front text with
  | zero => exact List.forall_mem_nil _
  | succ steps inductionHypothesis =>
      obtain ⟨scan, after, stepped, advances⟩ :=
        exists_advances (Position.start.advanceBy front) text
      rw [run_succ steps stepped, List.forall_mem_cons]
      cases advances with
      | stop between =>
          rw [run_finished]
          exact ⟨⟨front ++ text, [], by rw [whole, List.append_nil],
            (Position.advanceBy_append ..).symm⟩, List.forall_mem_nil _⟩
      | @unreadable gap unread rest split between refused =>
          rw [run_finished]
          exact ⟨⟨front ++ gap, unread ++ rest, by rw [whole, split, List.append_assoc],
            (Position.advanceBy_append ..).symm⟩, List.forall_mem_nil _⟩
      | @token gap spelled rest lexeme split between longest =>
          constructor
          · exact ⟨front ++ gap, spelled ++ rest, by rw [whole, split, List.append_assoc],
              (Position.advanceBy_append ..).symm⟩
          · rw [← Position.advanceBy_append]
            apply inductionHypothesis
            rw [whole, split]
            simp

/-- The first two segments of a path, with blanks around the dot between them. -/
def spacedPath (model field : String) (before after : List Char) : List Char :=
  model.toList ++ (before ++ '.' :: (after ++ field.toList))

/-- The segments of a path stand in the source with blanks around the dots. -/
theorem Remain.standsAt_path {source : String} {first dot word : Token} {tokens : List Token}
    {stop : Position} {model field : String}
    (remain : Remain source (first :: dot :: word :: tokens) stop)
    (isFirst : first.lexeme = .ident model) (isDot : dot.lexeme = .dot)
    (isWord : word.lexeme = .ident field) :
    ∃ before after, (∀ c ∈ before, isBlank c = true) ∧ (∀ c ∈ after, isBlank c = true) ∧
      StandsAt source first.position (spacedPath model field before after) := by
  obtain ⟨-, front, text, whole, cuts⟩ := remain
  cases cuts with
  | @token _ gap spelled _ _ _ _ between longest others =>
      obtain rfl := isFirst
      obtain ⟨rfl, -⟩ := longest.rule.word_eq
      cases others with
      | @token _ before spelledDot _ _ _ _ betweenDot longest others =>
          obtain rfl := isDot
          have blankBefore := betweenDot.all_blank longest.rule (by simp)
          obtain rfl := longest.rule.fixed_eq rfl
          cases others with
          | @token _ after spelledWord rest _ _ _ betweenWord longest others =>
              obtain rfl := isWord
              have blankAfter := betweenWord.all_blank longest.rule (by simp)
              obtain ⟨rfl, -⟩ := longest.rule.word_eq
              refine ⟨before, after, blankBefore, blankAfter, front ++ gap, rest, ?_, rfl⟩
              rw [whole]
              simp [spacedPath]

end Schemata
