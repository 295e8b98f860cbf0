import Schemata.Proofs.Analysis.Independence
import Schemata.Proofs.Analysis.Placement
import Schemata.Source.Diagnostic

/-!
# Diagnostics point into the source

Whatever is wrong with a source, every place that is reported is a place of it: the refusal of what
cannot be read, the problems of what was read, and the earlier definitions that they mention. So
the lines around each of them can be shown, and problems come in the order of their offsets.
-/

namespace Schemata

variable {source : String}

/-- A position points into a source: between two of its characters, on the line that it says. -/
structure Position.PointsInto (source : String) (position : Position) : Prop where
  inside : position.offset ≤ source.utf8ByteSize
  boundary : (String.Pos.Raw.mk position.offset).IsValid source
  recomputed : position = Position.ofOffset source position.offset

/-- A place of the source points into it. -/
theorem IsPlace.pointsInto {position : Position} (place : IsPlace source position) :
    position.PointsInto source :=
  ⟨place.offset_le, place.isValid_offset, place.eq_ofOffset⟩

namespace Diagnostic

/-- A diagnostic has a place in the source, and all its notes do. -/
structure PlacedIn (source : String) (diagnostic : Diagnostic) : Prop where
  position : ∃ position, diagnostic.position = some position ∧ IsPlace source position
  notes : ∀ note ∈ diagnostic.notes, IsPlace source note.position

/-- The diagnostic of an error is placed where the error is. -/
theorem placedIn_ofReadError {error : ReadError} (placed : error.PlacedIn source) :
    (ofReadError error).PlacedIn source := by
  cases error with
  | unreadable problem => exact ⟨⟨_, rfl, placed⟩, List.forall_mem_nil _⟩
  | expected position expectations found => exact ⟨⟨_, rfl, placed⟩, List.forall_mem_nil _⟩
  | redefined position field kind previous =>
      exact ⟨⟨_, rfl, placed.1⟩, List.forall_mem_singleton.2 placed.2⟩
  | invalid position misuse => exact ⟨⟨_, rfl, placed⟩, List.forall_mem_nil _⟩

/-- The diagnostic of a problem is placed where the problem is. -/
theorem placedIn_ofProblem {problem : Analysis.Problem} (placed : problem.PlacedIn source) :
    (ofProblem problem).PlacedIn source where
  position := ⟨_, rfl, placed.position⟩
  notes := by
    intro note member
    obtain ⟨previous, mentioned, rfl⟩ := Option.map_eq_some_iff.1 (Option.mem_toList.1 member)
    exact placed.previous previous mentioned

/-- A diagnostic with places in the source can be written with all its snippets. -/
theorem PlacedIn.isSome_plain? {diagnostic : Diagnostic} (placed : diagnostic.PlacedIn source) :
    (diagnostic.plain? source).isSome = true := by
  obtain ⟨position, isPosition, place⟩ := placed.position
  obtain ⟨snippet, shown⟩ := Option.isSome_iff_exists.1 (place.isSome_snippet? diagnostic.size)
  have placeText : placeText? source diagnostic = some ("\n" ++ snippet) := by
    rw [placeText?, isPosition]
    simp [shown]
  have noteTexts : ∀ notes : List Note, (∀ note ∈ notes, IsPlace source note.position) →
      ∃ texts, notes.mapM (noteText? source) = some texts := by
    intro notes places
    induction notes with
    | nil => exact ⟨[], rfl⟩
    | cons note notes inductionHypothesis =>
        rw [List.forall_mem_cons] at places
        obtain ⟨text, noteShown⟩ := Option.isSome_iff_exists.1 (places.1.isSome_snippet? note.size)
        obtain ⟨texts, othersShown⟩ := inductionHypothesis places.2
        rw [List.mapM_cons, othersShown, noteText?, noteShown]
        exact ⟨_, rfl⟩
  obtain ⟨texts, allShown⟩ := noteTexts diagnostic.notes placed.notes
  rw [plain?, placeText, allShown]
  rfl

end Diagnostic

/-- A source has no plan because it cannot be read, or because of the sorted problems it has. -/
theorem of_compile_eq_error {error : CompileError} (failed : compile source = .error error) :
    (∃ refusal, Declaration.Schema.parse source = .error refusal ∧ error = .reading refusal) ∨
    ∃ schema, Declaration.Schema.parse source = .ok schema ∧
      error = .refused (Analysis.Problem.sort (Analysis.resolveSchema schema).problems) := by
  unfold compile at failed
  split at failed
  · next refusal refused =>
    cases failed
    exact .inl ⟨refusal, refused, rfl⟩
  · next schema parsed =>
    refine .inr ⟨schema, parsed, ?_⟩
    unfold Analysis.analyze at failed
    dsimp only at failed
    split at failed
    · next reported isError =>
      cases failed
      split at isError
      · cases isError
      · cases isError
        rfl
    · cases failed

/-- All that is reported about a source without a plan is placed in the source. -/
theorem diagnostics_placedIn {error : CompileError} (failed : compile source = .error error) :
    ∀ diagnostic ∈ error.diagnostics, diagnostic.PlacedIn source := by
  rcases of_compile_eq_error failed with ⟨refusal, refused, rfl⟩ | ⟨schema, parsed, rfl⟩
  · have placed := (Declaration.Schema.parse_within source).of_error refused
    exact List.forall_mem_singleton.2 (Diagnostic.placedIn_ofReadError placed)
  · have stands := (Declaration.Schema.parse_within source).of_ok parsed
    refine List.forall_mem_map.2 fun problem member => ?_
    have met := (Analysis.sort_stablySorted (Analysis.resolveSchema schema).problems).perm.mem_iff.1
      member
    exact Diagnostic.placedIn_ofProblem (Analysis.resolveSchema_placedIn stands problem met)

/-- A diagnostic is reported at an offset that is no larger than that of another one. -/
def Diagnostic.NotBehind (diagnostic other : Diagnostic) : Prop :=
  ∀ position ∈ diagnostic.position, ∀ otherPosition ∈ other.position,
    position.offset ≤ otherPosition.offset

/-- Diagnostics come in the order of their offsets, because problems are sorted by their places. -/
theorem pairwise_diagnostics {error : CompileError} (failed : compile source = .error error) :
    error.diagnostics.Pairwise Diagnostic.NotBehind := by
  have placed := diagnostics_placedIn failed
  rcases of_compile_eq_error failed with ⟨refusal, -, rfl⟩ | ⟨schema, -, rfl⟩
  · exact List.pairwise_singleton _ _
  · have sorted := Analysis.sort_stablySorted (Analysis.resolveSchema schema).problems
    rw [CompileError.diagnostics, List.pairwise_map]
    rw [CompileError.diagnostics, List.forall_mem_map] at placed
    refine sorted.ordered.imp_of_mem fun {problem other} member otherMember notBefore => ?_
    rintro _ ⟨⟩ _ ⟨⟩
    obtain ⟨_, ⟨⟩, place⟩ := (placed problem member).position
    obtain ⟨_, ⟨⟩, otherPlace⟩ := (placed other otherMember).position
    by_contra larger
    rw [otherPlace.before_of_offset_lt place (Nat.lt_of_not_le larger)] at notBefore
    cases notBefore

/--
Every diagnostic of a source without a plan has a position, and it and all its notes point into the
source. Their snippets and the whole diagnostic can be written, and the diagnostics come in the
order of their offsets.
-/
theorem diagnostics_pointInto {source : String} {error : CompileError}
    (failed : compile source = .error error) :
    (∀ diagnostic ∈ error.diagnostics,
      (∃ position, diagnostic.position = some position ∧ position.PointsInto source ∧
        ∀ size, (snippet? source position size).isSome = true) ∧
      (∀ note ∈ diagnostic.notes, note.position.PointsInto source ∧
        ∀ size, (snippet? source note.position size).isSome = true) ∧
      (diagnostic.plain? source).isSome = true) ∧
    error.diagnostics.Pairwise Diagnostic.NotBehind := by
  refine ⟨fun diagnostic member => ?_, pairwise_diagnostics failed⟩
  have placed := diagnostics_placedIn failed diagnostic member
  obtain ⟨position, isPosition, place⟩ := placed.position
  refine ⟨⟨position, isPosition, place.pointsInto, place.isSome_snippet?⟩, fun note noted => ?_,
    placed.isSome_plain?⟩
  have notePlace := placed.notes note noted
  exact ⟨notePlace.pointsInto, notePlace.isSome_snippet?⟩

/-- A schema that declares a model twice, and then asks for a field that the model does not have. -/
def twofoldSource : String :=
  "# Ämter
model team ( field id int autoincrement ) # früh
model team ( field id int autoincrement )
select team ( where team\t.\tsize = ? )
"

/-- What is wrong with it; the field is placed where the dot stands. -/
def twofoldProblems : List Analysis.Problem :=
  [⟨⟨3, 7, 65⟩, .duplicateModel "team" ⟨2, 7, 15⟩⟩, ⟨⟨4, 26, 126⟩, .unknownField "team" "size"⟩]

/-- The problems of a source with two of them. -/
theorem compile_twofoldSource : compile twofoldSource = .error (.refused twofoldProblems) := by
  have computed : (Declaration.Schema.parse twofoldSource).toOption.map
      (fun schema => (Analysis.resolveSchema schema).problems) = some twofoldProblems := by
    unfold twofoldSource
    rw [Declaration.Schema.parse_ofList]
    decide +kernel
  obtain ⟨schema, parsed, problems⟩ := Option.map_eq_some_iff.1 computed
  have sorted : Analysis.Problem.sort twofoldProblems = twofoldProblems :=
    List.mergeSort_of_pairwise (by decide)
  have analyzed : Analysis.analyze schema = .error twofoldProblems := by
    rw [Analysis.analyze, problems]
    exact congrArg Except.error sorted
  rw [compile, eq_ok_of_toOption parsed]
  dsimp only
  rw [analyzed]

/-- The second model, the first one, and the unknown field point into the source, in order. -/
theorem twofoldSource_diagnostics :
    compile twofoldSource = .error (.refused twofoldProblems) ∧
    (⟨3, 7, 65⟩ : Position).PointsInto twofoldSource ∧
    (⟨2, 7, 15⟩ : Position).PointsInto twofoldSource ∧
    (⟨4, 26, 126⟩ : Position).PointsInto twofoldSource ∧
    (∀ diagnostic ∈ (CompileError.refused twofoldProblems).diagnostics,
      (diagnostic.plain? twofoldSource).isSome = true) ∧
    (CompileError.refused twofoldProblems).diagnostics.Pairwise Diagnostic.NotBehind := by
  obtain ⟨each, inOrder⟩ := diagnostics_pointInto compile_twofoldSource
  have repeated := each _ List.mem_cons_self
  have unknown := each _ (List.mem_cons_of_mem _ List.mem_cons_self)
  obtain ⟨⟨_, ⟨⟩, repeatedInside, -⟩, notes, -⟩ := repeated
  obtain ⟨⟨_, ⟨⟩, unknownInside, -⟩, -⟩ := unknown
  have firstInside := (notes _ List.mem_cons_self).1
  exact ⟨compile_twofoldSource, repeatedInside, firstInside, unknownInside,
    fun diagnostic member => (each diagnostic member).2.2, inOrder⟩

end Schemata
