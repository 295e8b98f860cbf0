import Schemata.Proofs.Analysis.Resolution
import Schemata.Proofs.Layout.Declarations
import Schemata.Proofs.Layout.Queries
import Schemata.Proofs.Layout.Trees

/-!
# Layout does not matter

Two sources may differ in blanks and comments and still have the same tokens, at other places. Every
step from tokens to a plan mirrors itself without places, so the plan without places is the
plan of the tokens without places. It is the same for both sources.
-/

namespace Schemata

namespace Analysis

open Checked

/-- Queries of one kind are resolved alike if each of them is. -/
theorem resolveAll_mirrors {α β γ δ : Type} {image : α → β} {resolvedImage : γ → δ}
    {resolve : α → Checked (Option γ)} {resolveImage : β → Checked (Option δ)}
    (mirrors : ∀ declared,
      (resolve declared).Mirrors (Option.map resolvedImage) (resolveImage (image declared)))
    (declared : List α) :
    (resolveAll resolve declared).Mirrors (List.map resolvedImage)
      (resolveAll resolveImage (declared.map image)) := by
  refine (Checked.Mirrors.mapM mirrors).bind fun resolved => mirrors_of_eq ?_
  rw [List.filterMap_map, List.map_filterMap]
  rfl

/-- A schema is resolved alike. -/
theorem resolveSchema_mirrors (schema : Declaration.Schema) :
    (resolveSchema schema).Mirrors Plan.unplaced (resolveSchema schema.unplaced) := by
  refine (resolveCatalog_mirrors schema).bind fun catalog => ?_
  refine (resolveAll_mirrors (resolveInsert_mirrors catalog) schema.inserts).bind fun inserts => ?_
  refine (resolveAll_mirrors (resolveSelect_mirrors catalog) schema.selects).bind fun selects => ?_
  refine (resolveAll_mirrors (resolveUpdate_mirrors catalog) schema.updates).bind fun updates => ?_
  refine (resolveAll_mirrors (resolveDelete_mirrors catalog) schema.deletes).bind fun deletes => ?_
  refine (resolveAll_mirrors (resolveCount_mirrors catalog) schema.counts).bind fun counts => ?_
  have targets : returningTargets (inserts.map Insert.unplaced) (updates.map Update.unplaced) =
      returningTargets inserts updates := by
    rw [returningTargets, returningTargets, List.map_map, List.map_map]
    rfl
  exact mirrors_of_eq (by rw [targets, Plan.unplaced])

/-- A schema has the same plan without its places, or none. -/
theorem analyze_unplaced (schema : Declaration.Schema) :
    (analyze schema.unplaced).toOption = (analyze schema).toOption.map Plan.unplaced := by
  obtain ⟨value, clean⟩ := resolveSchema_mirrors schema
  rw [analyze, analyze]
  cases problems : (resolveSchema schema).problems with
  | nil =>
      rw [clean.2 problems, value]
      rfl
  | cons problem others =>
      cases mirrored : (resolveSchema schema.unplaced).problems with
      | nil => simp [clean.1 mirrored] at problems
      | cons => rfl

end Analysis

/-- The plan of tokens that are nowhere in particular, if they have one. -/
def unplacedPlan? (lexemes : List Lexeme) : Option Plan :=
  (Node.read ⟨lexemes.map Lexeme.unplaced, .start⟩ >>= Declaration.Schema.ofNodes).toOption.bind
    fun schema => (Analysis.analyze schema).toOption

/-- The plan of a source without its places is the plan of what its tokens say. -/
theorem compile_unplaced {source : String} {lexemes : List Lexeme}
    (tokenized : lexemes? source = some lexemes) :
    (compile source).toOption.map Plan.unplaced = unplacedPlan? lexemes := by
  obtain ⟨list, found, unplaced⟩ := exists_tokenize_of_lexemes? tokenized
  have parsed : Declaration.Schema.parse source =
      Node.read list >>= Declaration.Schema.ofNodes := by
    rw [Declaration.Schema.parse, Node.parse, found]
  have mirrors := (Node.read_mirrors list).bind Declaration.ofNodes_mirrors
  rw [unplacedPlan?, ← unplaced, mirrors.toOption_eq, compile, parsed]
  cases Node.read list >>= Declaration.Schema.ofNodes with
  | error refusal => rfl
  | ok schema =>
      have analyzed := Analysis.analyze_unplaced schema
      simp only [Except.toOption, Option.map_some, Option.bind_some] at analyzed ⊢
      rw [analyzed]
      cases Analysis.analyze schema <;> rfl

/--
Two sources whose tokens say the same, one after another, compile alike: both have a plan or none
has, and their plans are the same without places.
-/
theorem compile_ignores_layout {source other : String} {lexemes : List Lexeme}
    (tokenized : lexemes? source = some lexemes) (otherTokenized : lexemes? other = some lexemes) :
    ((∃ plan, compile source = .ok plan) ↔ ∃ plan, compile other = .ok plan) ∧
    ∀ plan otherPlan, compile source = .ok plan → compile other = .ok otherPlan →
      plan.unplaced = otherPlan.unplaced := by
  have plans : (compile source).toOption.map Plan.unplaced =
      (compile other).toOption.map Plan.unplaced := by
    rw [compile_unplaced tokenized, compile_unplaced otherTokenized]
  have succeeds : ∀ text, (∃ plan, compile text = .ok plan) ↔
      ((compile text).toOption.map Plan.unplaced).isSome = true := by
    intro text
    cases compile text <;> simp [Except.toOption]
  constructor
  · rw [succeeds, succeeds, plans]
  · intro plan otherPlan compiled otherCompiled
    rw [compiled, otherCompiled] at plans
    exact Option.some.inj plans

/-- A schema on two lines. -/
def plainSource : String :=
  "model team ( key id, field id int )
select team ( where team.id > -1 )
"

/-- The same schema with other blanks and with comments; the comments end before the newlines. -/
def spacedSource : String :=
  "\tmodel team(key id,field id int) # one model
select  team (where team . id>-1)// one query\r
"

/-- The plan of the first schema. -/
def plainPlan : Plan where
  models := [⟨"team", "team", [⟨{}, "id", "id", .int, none, none, ⟨1, 28, 27⟩⟩], [0], [],
    ⟨1, 1, 0⟩⟩]
  selects := [⟨0, [.model 0], [], [⟨⟨0, 0⟩, .gt, .literal (.int (-1))⟩], .many, none, .model 0,
    ⟨2, 1, 36⟩⟩]

/-- What the tokens of both schemas say. -/
def teamLexemes : List Lexeme :=
  [.ident "model", .ident "team", .openParen, .ident "key", .ident "id", .comma, .ident "field",
    .ident "id", .ident "int", .closeParen, .newline, .ident "select", .ident "team", .openParen,
    .ident "where", .ident "team", .dot, .ident "id", .comparison .gt, .integer (-1), .closeParen,
    .newline]

/-- The second schema compiles because the first one does, and their plans say the same. -/
theorem spacedSource_ignores_layout :
    lexemes? plainSource = some teamLexemes ∧ lexemes? spacedSource = some teamLexemes ∧
    compile plainSource = .ok plainPlan ∧
    ∃ plan, compile spacedSource = .ok plan ∧ plainPlan.unplaced = plan.unplaced := by
  have plain : lexemes? plainSource = some teamLexemes := by
    unfold plainSource
    rw [lexemes?_ofList]
    decide +kernel
  have spaced : lexemes? spacedSource = some teamLexemes := by
    unfold spacedSource
    rw [lexemes?_ofList]
    decide +kernel
  have compiled : compile plainSource = .ok plainPlan := by
    apply eq_ok_of_toOption
    unfold plainSource
    rw [compile_ofList]
    decide +kernel
  obtain ⟨succeeds, alike⟩ := compile_ignores_layout plain spaced
  obtain ⟨plan, spacedCompiled⟩ := succeeds.1 ⟨plainPlan, compiled⟩
  exact ⟨plain, spaced, compiled, plan, spacedCompiled, alike _ _ compiled spacedCompiled⟩

end Schemata
