import Schemata.Proofs.Outcome
import Schemata.Proofs.Source.Tiling

/-!
# Tokens tile their source

The tokens of a source and the gaps between them fill it without overlap: a gap consists of blanks
and comments, and a token of the longest text there that a rule matches, from which its lexeme is
read. If a source cannot be cut into tokens, this holds of the part before the text that is refused.
-/

namespace Schemata

/-- From a byte offset on, a source goes on with a text and then with a rest. -/
def GoesOn (source : String) (offset : Nat) (text rest : List Char) : Prop :=
  ∃ front, source.toList = front ++ (text ++ rest) ∧ byteLength front = offset

/-- Between two byte offsets of a source, there are only blanks and comments. -/
def IsGap (source : String) (start stop : Nat) : Prop :=
  ∃ gap rest, GoesOn source start gap rest ∧ start + byteLength gap = stop ∧ Skipped gap rest

/-- The span of a token is not empty, and its text decides what the token says. -/
structure Token.Fills (source : String) (token : Token) : Prop where
  nonempty : 0 < token.size
  text : ∃ text rest, GoesOn source token.position.offset text rest ∧
    byteLength text = token.size ∧ Longest text rest (some token.lexeme) ∧
    ∀ value, Rule text value → value = some token.lexeme

/-- From one byte offset to another, a source consists of tokens and the gaps around them. -/
def Tiles (source : String) : Nat → List Token → Nat → Prop
  | start, [], stop => IsGap source start stop
  | start, token :: tokens, stop =>
    IsGap source start token.position.offset ∧ token.Fills source ∧
      Tiles source token.stop tokens stop

/-- The front part of a source up to a byte offset is tiled, and spans come one after the other. -/
structure Tiled (source : String) (tokens : List Token) (stop : Nat) : Prop where
  tiles : Tiles source 0 tokens stop
  ordered : tokens.Pairwise fun first second => first.stop ≤ second.position.offset
  inside : ∀ token ∈ tokens, token.stop ≤ stop

variable {source : String} {tokens : List Token} {start stop : Nat}

/-- A gap does not end before it starts. -/
theorem IsGap.le (isGap : IsGap source start stop) : start ≤ stop := by
  obtain ⟨gap, rest, -, rfl, -⟩ := isGap
  exact Nat.le_add_right _ _

/-- Tokens and gaps do not end before they start, and the tokens are between both ends. -/
theorem Tiles.le (tiles : Tiles source start tokens stop) :
    start ≤ stop ∧ ∀ token ∈ tokens, start ≤ token.position.offset ∧ token.stop ≤ stop := by
  induction tokens generalizing start with
  | nil => exact ⟨IsGap.le tiles, List.forall_mem_nil _⟩
  | cons token tokens inductionHypothesis =>
      obtain ⟨gap, -, others⟩ := tiles
      obtain ⟨bound, each⟩ := inductionHypothesis others
      have before := gap.le
      have stops : token.stop = token.position.offset + token.size := rfl
      refine ⟨by omega, List.forall_mem_cons.2 ⟨⟨before, bound⟩, fun later member => ?_⟩⟩
      have := each later member
      omega

/-- What tiles a source from its start comes in order. -/
theorem Tiles.tiled (tiles : Tiles source 0 tokens stop) : Tiled source tokens stop where
  tiles := tiles
  ordered := by
    generalize 0 = start at tiles
    induction tokens generalizing start with
    | nil => exact .nil
    | cons token tokens inductionHypothesis =>
        obtain ⟨-, -, others⟩ := tiles
        refine .cons (fun later member => ?_) (inductionHypothesis _ others)
        exact (others.le.2 later member).1
  inside token member := (tiles.le.2 token member).2

/-- A source is tiled by the tokens that it is cut into, up to the rest. -/
theorem Cuts.tiles {front text rest passed : List Char} (cuts : Cuts front text tokens rest)
    (whole : source.toList = front ++ text) (split : source.toList = passed ++ rest) :
    Tiles source (byteLength front) tokens (byteLength passed) := by
  induction cuts with
  | @stop front gap rest between =>
      have ends : front ++ gap = passed := by
        rw [whole, ← List.append_assoc] at split
        exact List.append_cancel_right split
      rw [← ends, byteLength_append]
      exact ⟨gap, rest, ⟨front, whole, rfl⟩, rfl, between⟩
  | @token front gap spelled behind rest lexeme tokens between longest others inductionHypothesis =>
      have offset : (Position.start.advanceBy (front ++ gap)).offset =
          byteLength front + byteLength gap := by
        rw [Position.offset_start_advanceBy, byteLength_append]
      refine ⟨⟨gap, spelled ++ behind, ⟨front, whole, rfl⟩, offset.symm, between⟩, ?_, ?_⟩
      · constructor
        · cases spelled with
          | nil => exact absurd rfl longest.rule.ne_nil
          | cons c spelled => exact Nat.lt_add_right _ c.utf8Size_pos
        · refine ⟨spelled, behind, ⟨front ++ gap, ?_, ?_⟩, rfl, longest, fun value rule => ?_⟩
          · rw [whole, List.append_assoc]
          · exact (Position.offset_start_advanceBy _).symm
          · exact rule.unique longest.rule
      · have stops : byteLength (front ++ (gap ++ spelled)) =
            (Position.start.advanceBy (front ++ gap)).offset + byteLength spelled := by
          rw [offset, byteLength_append, byteLength_append, Nat.add_assoc]
        rw [Token.stop, ← stops]
        apply inductionHypothesis _ split
        rw [whole]
        simp

/--
Tokens tile their source. A source that is cut into tokens ends with one end mark behind its last
byte, and its tokens and the gaps between them fill it. A source that is not is filled in the same
way up to a text that is refused.
-/
theorem tokenize_tiled (source : String) :
    (∀ list, tokenize source = .ok list →
      (Scanner.ofSource source).remaining = list.tokens.map .token ++ [.stop list.stop] ∧
        list.stop.offset = source.utf8ByteSize ∧ Tiled source list.tokens list.stop.offset) ∧
    ∀ problem, tokenize source = .error problem →
      ∃ tokens rest,
        (Scanner.ofSource source).remaining = tokens.map .token ++ [.unreadable problem] ∧
          Tiled source tokens problem.position.offset ∧
          GoesOn source problem.position.offset problem.text.toList rest ∧
          Refused problem.text.toList rest := by
  constructor
  · intro list tokenized
    obtain ⟨scanned, cuts, stops⟩ := cuts_of_tokenize tokenized
    have offset : list.stop.offset = byteLength source.toList := by
      rw [stops, Position.offset_start_advanceBy]
    refine ⟨scanned, by rw [offset, byteLength_toList], ?_⟩
    rw [offset]
    exact (cuts.tiles rfl (List.append_nil _).symm).tiled
  · intro problem refused
    obtain ⟨tokens, passed, unread, behind, scanned, whole, cuts, isRefused, rfl⟩ :=
      cuts_of_tokenize_error refused
    refine ⟨tokens, behind, scanned, ?_, ⟨passed, ?_, ?_⟩, ?_⟩
    · rw [Position.offset_start_advanceBy]
      exact (cuts.tiles rfl whole).tiled
    · rw [String.toList_ofList, whole]
    · exact (Position.offset_start_advanceBy _).symm
    · rwa [String.toList_ofList]

/-- A source with comments, an escaped quote, a sign and characters of several bytes. -/
def labelSource : String :=
  "a//é\n\"\\\"#\" <= -7 # ☃"

/-- The same source with a string that is not closed. -/
def openSource : String :=
  "a//é\n\"\\\"# <= -7"

/-- The five tokens of the first source fill it; the second one is filled up to its open string. -/
theorem labelSource_tiled :
    (∃ list, tokenize labelSource = .ok list ∧ list.tokens.length = 5 ∧
      Tiled labelSource list.tokens labelSource.utf8ByteSize) ∧
    tokenize openSource = .error ⟨⟨2, 1, 6⟩, "\"\\\"# <= -7"⟩ ∧
    ∃ tokens rest, Tiled openSource tokens 6 ∧
      GoesOn openSource 6 "\"\\\"# <= -7".toList rest := by
  have isRead : (tokenize labelSource).toOption.map (·.tokens.length) = some 5 := by
    unfold labelSource
    rw [tokenize, Scanner.ofSource, String.toList_ofList]
    decide +kernel
  have isRefused : tokenize openSource = .error ⟨⟨2, 1, 6⟩, "\"\\\"# <= -7"⟩ := by
    unfold openSource
    rw [tokenize, Scanner.ofSource, String.toList_ofList]
    decide +kernel
  constructor
  · obtain ⟨list, found, five⟩ := Option.map_eq_some_iff.1 isRead
    have tokenized := eq_ok_of_toOption found
    obtain ⟨-, offset, tiled⟩ := (tokenize_tiled labelSource).1 list tokenized
    exact ⟨list, tokenized, five, offset ▸ tiled⟩
  · obtain ⟨tokens, rest, -, tiled, goesOn, -⟩ := (tokenize_tiled openSource).2 _ isRefused
    exact ⟨isRefused, tokens, rest, tiled, goesOn⟩

end Schemata
