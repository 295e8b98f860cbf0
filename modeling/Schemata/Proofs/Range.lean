import Schemata.Proofs.Access.Locality
import Schemata.Proofs.Grammar.Soundness
import Schemata.Proofs.Source.Tiling

/-!
# Nothing is looked up out of range

On the way from a source to its statements, tables and methods, positions are counted from the start
of their line, tokens are read one after another, and models and fields are looked up by numbers. No
step of this goes out of range, whatever the source is: a line starts at or before each of its
positions; readers go forward through the tokens up to their end, and a value ends behind its start;
what resolution looks up is taken, also after a problem, and its searches stay in their tables; and
so is every number in a plan. Rendering lists and looks up columns that are taken, so it ends the
same where every lookup is checked. What lies behind the numbers that are taken is never seen,
neither by resolution nor by rendering.
-/

namespace Schemata

/-! ## Tokens -/

/-- The tokens that a path consists of end with its last one. -/
theorem Grammar.Segments.exists_last {first last : Token} {tokens : List Token}
    {names : List String} (segments : Grammar.Segments first tokens names last) :
    ∃ front, first :: tokens = front ++ [last] := by
  induction segments with
  | nil => exact ⟨[], rfl⟩
  | @cons first dot word last name tokens names isDot isWord rest inductionHypothesis =>
      obtain ⟨front, whole⟩ := inductionHypothesis
      exact ⟨first :: dot :: front, by rw [whole]; rfl⟩

/-- A value of a source ends behind its start, with the last of its tokens. -/
theorem Remain.exists_last {source : String} {stop : Position} {used rest : List Token}
    {leaf : Leaf} (remain : Remain source (used ++ rest) stop) (value : Grammar.Value used leaf) :
    ∃ front last, used = front ++ [last] ∧ leaf.position.offset ≤ last.stop ∧
      leaf.size = last.stop - leaf.position.offset := by
  have single : ∀ (token : Token), token.position.offset ≤ token.stop ∧
      token.size = token.stop - token.position.offset := by
    intro token
    rw [Token.stop]
    omega
  cases value with
  | @path first dot word last name second tokens more isFirst isDot isWord segments =>
      obtain ⟨front, whole⟩ := segments.exists_last
      have later : first.stop ≤ last.position.offset := by
        refine remain.stop_le last (List.mem_append_left rest ?_)
        rw [whole]
        simp
      refine ⟨first :: dot :: front, last, by rw [whole]; rfl, ?_, rfl⟩
      have starts := (single first).1
      have ends := (single last).1
      dsimp only
      omega
  | @ident token | @integer token | @text token | @placeholder token | @comparison token =>
      exact ⟨[], token, rfl, single token⟩

/--
Readers that are given some of the tokens go forward through them. A value that is read ends with
the token in front of those that are left, and not before it starts.
-/
structure Node.ReadsForward (stop : Position) (tokens : List Token) : Prop where
  separators : skipSeparators tokens <:+ tokens
  separated : ∀ expected rest, readSeparators stop expected tokens = .ok rest → rest <:+ tokens
  name : ∀ name rest, readName stop tokens = .ok (name, rest) → rest <:+ tokens
  value : ∀ value rest, readValue stop tokens = .ok (value, rest) → rest <:+ tokens
  size : ∀ leaf rest, readValue stop tokens = .ok (some leaf, rest) →
    ∃ front last, tokens = front ++ last :: rest ∧ leaf.position.offset ≤ last.stop ∧
      leaf.size = last.stop - leaf.position.offset
  values : ∀ bound leaves rest, readValues stop bound tokens = .ok (leaves, rest) → rest <:+ tokens
  entry : ∀ bound node rest, readEntry stop bound tokens = .ok (node, rest) → rest <:+ tokens
  groups : ∀ bound nodes rest, readGroups stop bound tokens = .ok (nodes, rest) → rest <:+ tokens
  items : ∀ bound nodes rest, readItems stop bound tokens = .ok (nodes, rest) → rest <:+ tokens

/-- Readers go forward through the tokens of a source. -/
theorem Remain.readsForward {source : String} {stop : Position} {tokens : List Token}
    (remain : Remain source tokens stop) : Node.ReadsForward stop tokens where
  separators := List.dropWhile_suffix _
  separated expected rest read := by
    obtain ⟨used, -, -, rfl⟩ := Grammar.readSeparators_sound read
    exact List.suffix_append used rest
  name name rest read := by
    obtain ⟨word, -, rfl, -⟩ := Grammar.readName_sound read
    exact List.suffix_cons word rest
  value value rest read := by
    cases value with
    | none =>
        obtain rfl := Grammar.readValue_none read
        exact List.suffix_refl _
    | some leaf =>
        obtain ⟨used, rfl, -⟩ := Grammar.readValue_sound read
        exact List.suffix_append used rest
  size leaf rest read := by
    obtain ⟨used, rfl, value⟩ := Grammar.readValue_sound read
    obtain ⟨front, last, rfl, bounds⟩ := remain.exists_last value
    exact ⟨front, last, by simp, bounds⟩
  values bound leaves rest read := by
    obtain ⟨used, rfl, -⟩ := Grammar.readValues_sound read
    exact List.suffix_append used rest
  entry bound node rest read := by
    obtain ⟨used, -, -, -, rfl, -⟩ := (Grammar.sound stop bound).entry read
    exact List.suffix_append used rest
  groups bound nodes rest read := by
    obtain ⟨used, -, rfl, -⟩ := (Grammar.sound stop bound).groups read
    exact List.suffix_append used rest
  items bound nodes rest read := by
    obtain ⟨used, rfl, -⟩ := (Grammar.sound stop bound).items read
    exact List.suffix_append used rest

/-! ## The whole way -/

/--
Nothing is looked up out of range, whatever the source is. Everything that is scanned is on a line
that starts at or before it. From any of the tokens on, readers go forward to others of them, and
the size of a value is the distance from its start to an end behind it. Whatever problems are
reported, resolution looks up keys, models and columns that are taken, every search for joins stays
in its tables, what is hidden behind them changes nothing, and what comes out holds only numbers
that are taken. So does the plan of a source. Its statements, tables, structs and methods list and
look up nothing but columns that are taken, and nothing behind these numbers changes them.
-/
theorem lookups_inRange (source : String) :
    (∀ scan ∈ (Scanner.ofSource source).remaining,
      ∃ lineStart, scan.position.OnLine source lineStart) ∧
    (∀ list, tokenize source = .ok list → ∀ tokens, tokens <:+ list.tokens →
      Node.ReadsForward list.stop tokens) ∧
    (∀ schema, Declaration.Schema.parse source = .ok schema →
      (∀ lookup, Analysis.Consults schema lookup → lookup.InRange) ∧
        Analysis.ResolvesWithin schema ∧ (Analysis.resolveSchema schema).value.InRange) ∧
    ∀ plan, compile source = .ok plan →
      plan.InRange ∧ ∀ dialect, Access.RendersWithin dialect plan := by
  refine ⟨fun scan member => ?_, ?_, fun schema _ => ?_, ?_⟩
  · have place := @isPlace_of_mem_run source _ [] source.toList rfl scan member
    exact place.exists_onLine
  · rintro list tokenized tokens ⟨used, whole⟩
    have remain := remain_of_tokenize tokenized
    rw [← whole] at remain
    exact remain.of_append.readsForward
  · exact ⟨fun lookup consults => consults.inRange, Analysis.resolvesWithin schema,
      Analysis.resolveSchema_yields schema⟩
  · intro plan compiled
    have inRange := inRange_of_compile compiled
    exact ⟨inRange, Access.rendersWithin inRange⟩

/-- The catalog of the roster with another `id` hidden in each model, and another `team`. -/
def shadowedRoster : Catalog :=
  rosterPlan.toCatalog.withHidden (fun _ => [⟨{}, "id", "shadow", .text, none, none, .start⟩])
    [⟨"team", "shadows", [], [7], [[8]], .start⟩]

/--
What is hidden in the catalog changes neither the queries of the roster nor its deletes, and its
methods are made where every lookup is checked.
-/
theorem rosterSource_lookups_inRange :
    (∃ schema, Declaration.Schema.parse rosterSource = .ok schema ∧
      Analysis.ResolvesAlike shadowedRoster (Analysis.resolveCatalog schema).value) ∧
    compile rosterSource = .ok rosterPlan ∧ rosterPlan.InRange ∧
    (∀ delete ∈ rosterPlan.deletes,
      Sql.deleteStatement Sql.sqlite3 shadowedRoster delete =
        Sql.deleteStatement Sql.sqlite3 rosterPlan.toCatalog delete) ∧
    rosterPlan.checkedLookups.methods Sql.sqlite3 rosterPlan =
      some (Access.methods Sql.sqlite3 rosterPlan) := by
  have hides : shadowedRoster.Hides rosterPlan.toCatalog :=
    Catalog.withHidden_hides (by decide +kernel) (by decide +kernel)
  obtain ⟨-, -, schemas, plans⟩ := lookups_inRange rosterSource
  refine ⟨?_, compile_rosterSource, ?_⟩
  · obtain ⟨schema, parsed, -, resolved⟩ := Analysis.exists_gives_of_compile compile_rosterSource
    refine ⟨schema, parsed, ?_⟩
    have catalogHides : shadowedRoster.Hides (Analysis.resolveCatalog schema).value := by
      rw [← resolved] at hides
      exact hides
    obtain ⟨-, within, -⟩ := schemas schema parsed
    exact within.catalogs schema.relations List.prefix_rfl _ catalogHides
  · obtain ⟨inRange, renders⟩ := plans rosterPlan compile_rosterSource
    refine ⟨inRange, fun delete member => ?_, (renders Sql.sqlite3).checkedMethods⟩
    have isTask : Access.Task.delete delete ∈ Access.tasks Sql.sqlite3 rosterPlan := by
      simp [Access.tasks, Access.queryTasks, member]
    have same := (renders Sql.sqlite3).statements _ hides.toExtends _ isTask
      (List.forall_mem_nil _)
    exact Except.ok.inj same

end Schemata
