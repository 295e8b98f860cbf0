import Schemata.Proofs.Access.Signatures
import Schemata.Proofs.Text.ByteOrder

/-!
# Modules that share a set of signatures

Modules can be rendered one after the other with one set of signatures. Each module that can be made
adds the signatures that it exports and lists the whole set at its foot; a module that cannot be
made adds nothing. Whether it can be made has nothing to do with the set (`exists_artifact_iff`), so
the set is what was there before and what all modules export (`mem_afterAll`), whatever the order of
the modules and of their dialects and however often one of them is made. The foot can be read back:
it declares each signature once, without its mark and in the order of bytes
(`exists_footed_of_run`, `declaredMethods_methodsTrait`).
-/

namespace Schemata.Access

open Sql (Dialect)
open Text (BytesBefore)

/-! ## Jobs -/

/-- A module that is to be rendered from the text of a schema. -/
structure Job where
  module : String
  source : String
  dialects : List Dialect
  formatter : Formatter

/-- Why a job fails. -/
inductive JobError where
  | compiling (error : CompileError)
  | rendering (error : RenderError)

namespace Job

/-- What comes of a job, given the signatures there are before it. -/
def run (job : Job) (signatures : SignatureSet) : Except JobError Artifact :=
  match compile job.source with
  | .error error => .error (.compiling error)
  | .ok plan =>
    (render job.module plan job.dialects job.formatter signatures).mapError .rendering

/-- The signatures there are after a job; a job that fails leaves them as they were. -/
def after (job : Job) (signatures : SignatureSet) : SignatureSet :=
  match job.run signatures with
  | .ok artifact => artifact.signatures
  | .error _ => signatures

/-- A method of a job's plan is exported under a signature, in one of the job's dialects. -/
def Exports (job : Job) (signature : String) : Prop :=
  ∃ plan, compile job.source = .ok plan ∧ ∃ dialect ∈ job.dialects, ∃ found,
    methods dialect plan = .ok found ∧ signature ∈ exportedSignatures found

/-- A job can be done: its source has a plan, and all its dialects have drivers and lose no rows. -/
def Feasible (job : Job) : Prop :=
  ∃ plan, compile job.source = .ok plan ∧ (∀ dialect ∈ job.dialects, HasDriver dialect) ∧
    ∀ dialect ∈ job.dialects, ¬LosesRows dialect plan

/-- Two jobs are about one source and the same dialects, in any order. -/
structure Alike (job other : Job) : Prop where
  source : job.source = other.source
  dialects : job.dialects.Perm other.dialects

end Job

/-- The signatures there are after some jobs, one after the other. -/
def afterAll (signatures : SignatureSet) (jobs : List Job) : SignatureSet :=
  jobs.foldl (fun signatures job => job.after signatures) signatures

/-- A job is one of some jobs and succeeds when it is its turn. -/
def Succeeds (signatures : SignatureSet) (jobs : List Job) (job : Job) : Prop :=
  ∃ before after artifact, jobs = before ++ job :: after ∧
    job.run (afterAll signatures before) = .ok artifact

/-- Jobs that are put into another order, and their dialects too. -/
def Rearranged (jobs others : List Job) : Prop :=
  ∃ ordered, jobs.Perm ordered ∧ List.Forall₂ Job.Alike ordered others

/-! ## One job -/

/-- The methods of an outline are those of all dialects. -/
theorem mem_signatures_of_outline {module : String} {plan : Plan} {dialects : List Dialect}
    {outlined : Outline} (made : outline module plan dialects = .ok outlined) {signature : String} :
    signature ∈ outlined.methods.map OwnedMethod.signature ↔
      ∃ dialect ∈ dialects, ∃ found, methods dialect plan = .ok found ∧
        signature ∈ found.map signatureText := by
  obtain ⟨header, -, rest⟩ := of_bind_eq_ok made
  obtain ⟨owned, ownedMade, equal⟩ := of_bind_eq_ok rest
  cases equal
  have each : List.Forall₂ (fun dialect items => ∃ found, methods dialect plan = .ok found ∧
      items.map OwnedMethod.signature = found.map signatureText) dialects owned := by
    refine (mapM_eq_ok_iff.1 ownedMade).imp fun dialect items itemsMade => ?_
    obtain ⟨found, foundMade, rfl⟩ := map_eq_ok_iff.1 itemsMade
    exact ⟨found, foundMade, List.map_map⟩
  rw [List.map_flatten, List.mem_flatten]
  constructor
  · rintro ⟨texts, isTexts, member⟩
    obtain ⟨items, isOwned, rfl⟩ := List.mem_map.1 isTexts
    obtain ⟨dialect, paired, found, foundMade, same⟩ := exists_zip_of_mem_right each isOwned
    exact ⟨dialect, (List.of_mem_zip paired).1, found, foundMade, same ▸ member⟩
  · rintro ⟨dialect, isDialect, found, foundMade, member⟩
    obtain ⟨items, paired, other, otherMade, same⟩ := exists_zip_of_mem_left each isDialect
    cases foundMade.symm.trans otherMade
    exact ⟨_, List.mem_map_of_mem (List.of_mem_zip paired).2, same ▸ member⟩

section Jobs

variable {job : Job} {signatures : SignatureSet} {artifact : Artifact}

/-- A job whose source compiles renders the plan. -/
theorem run_of_compile {plan : Plan} (compiled : compile job.source = .ok plan)
    (signatures : SignatureSet) :
    job.run signatures =
      (render job.module plan job.dialects job.formatter signatures).mapError .rendering := by
  unfold Job.run
  rw [compiled]

/-- A module that is made has recorded its outline, and its text was formatted or kept. -/
theorem exists_written_of_run (made : job.run signatures = .ok artifact) :
    ∃ plan outlined text, compile job.source = .ok plan ∧
      Written job.module plan job.dialects signatures outlined text ∧
      artifact.signatures = outlined.record signatures ∧
      formatOrKeep job.formatter text = (artifact.source, artifact.formatted) := by
  unfold Job.run at made
  split at made
  · cases made
  · next plan compiled =>
    have rendered := render_rendered job.module plan job.dialects job.formatter signatures
    generalize render job.module plan job.dialects job.formatter signatures = outcome
      at made rendered
    cases rendered with
    | unsupported | noFallback => cases made
    | @formatted outlined text source written formats =>
        cases made
        exact ⟨plan, outlined, text, compiled, written, rfl, by simp [formatOrKeep, formats]⟩
    | @unformatted outlined text error written fails =>
        cases made
        exact ⟨plan, outlined, text, compiled, written, rfl, by simp [formatOrKeep, fails]⟩

/-- A module is made of the text that is written for it. -/
theorem run_of_written {plan : Plan} {outlined : Outline} {text : String}
    (compiled : compile job.source = .ok plan)
    (written : Written job.module plan job.dialects signatures outlined text) :
    job.run signatures = .ok ⟨(formatOrKeep job.formatter text).1, outlined.record signatures,
      (formatOrKeep job.formatter text).2⟩ := by
  have rendered : render job.module plan job.dialects job.formatter signatures =
      .ok ⟨(formatOrKeep job.formatter text).1, outlined.record signatures,
        (formatOrKeep job.formatter text).2⟩ := by
    rw [render, written.outlines]
    dsimp only [Except.mapError, bind, Except.bind]
    rw [written.writes]
    rfl
  rw [run_of_compile compiled, rendered]
  rfl

/-- Whether a job can be done has nothing to do with the signatures before it. -/
theorem exists_artifact_iff (job : Job) (signatures : SignatureSet) :
    (∃ artifact, job.run signatures = .ok artifact) ↔ job.Feasible := by
  constructor
  · rintro ⟨artifact, made⟩
    obtain ⟨plan, outlined, text, compiled, written, -, -⟩ := exists_written_of_run made
    exact ⟨plan, compiled, written.known, written.kept⟩
  · rintro ⟨plan, compiled, known, kept⟩
    obtain ⟨artifact, made⟩ :=
      exists_artifact job.module plan job.dialects job.formatter signatures known kept
    exact ⟨artifact, by rw [run_of_compile compiled, made]; rfl⟩

/-- A module that is made adds what it exports. -/
theorem mem_signatures_of_run (made : job.run signatures = .ok artifact) {signature : String} :
    signature ∈ artifact.signatures.signatures ↔
      signature ∈ signatures.signatures ∨ job.Exports signature := by
  obtain ⟨plan, outlined, text, compiled, written, recorded, -⟩ := exists_written_of_run made
  rw [recorded, Outline.record, SignatureSet.mem_recordAll,
    mem_signatures_of_outline written.outlines]
  refine or_congr_right ?_
  constructor
  · rintro ⟨⟨dialect, isDialect, found, foundMade, member⟩, exported⟩
    exact ⟨plan, compiled, dialect, isDialect, found, foundMade,
      mem_exportedSignatures.2 ⟨member, exported⟩⟩
  · rintro ⟨other, otherCompiled, dialect, isDialect, found, foundMade, member⟩
    cases compiled.symm.trans otherCompiled
    obtain ⟨isSignature, exported⟩ := mem_exportedSignatures.1 member
    exact ⟨⟨dialect, isDialect, found, foundMade, isSignature⟩, exported⟩

/-- A job that succeeds leaves the signatures of its module. -/
theorem Job.after_of_run (made : job.run signatures = .ok artifact) :
    job.after signatures = artifact.signatures := by
  unfold Job.after
  rw [made]

/-- A job that fails leaves the signatures as they were. -/
theorem Job.after_of_failed {error : JobError} (failed : job.run signatures = .error error) :
    job.after signatures = signatures := by
  unfold Job.after
  rw [failed]

end Jobs

/-! ## Jobs one after the other -/

/-- A job that can be done adds what it exports, and any other job nothing. -/
theorem mem_after (job : Job) (signatures : SignatureSet) {signature : String} :
    signature ∈ (job.after signatures).signatures ↔
      signature ∈ signatures.signatures ∨ job.Feasible ∧ job.Exports signature := by
  have feasible := exists_artifact_iff job signatures
  cases made : job.run signatures with
  | ok artifact =>
      have isFeasible : job.Feasible := feasible.1 ⟨artifact, made⟩
      rw [Job.after_of_run made, mem_signatures_of_run made, and_iff_right isFeasible]
  | error error =>
      have notFeasible : ¬job.Feasible := by simp [← feasible, made]
      simp [Job.after_of_failed made, notFeasible]

/-- A job keeps signatures in order. -/
theorem SignatureSet.Ordered.after {signatures : SignatureSet} (ordered : signatures.Ordered)
    (job : Job) : (job.after signatures).Ordered := by
  cases made : job.run signatures with
  | ok artifact =>
      obtain ⟨plan, outlined, text, -, -, recorded, -⟩ := exists_written_of_run made
      rw [Job.after_of_run made, recorded]
      exact ordered.recordAll _
  | error error =>
      rw [Job.after_of_failed made]
      exact ordered

/-- Jobs keep signatures in order. -/
theorem SignatureSet.Ordered.afterAll {signatures : SignatureSet} (ordered : signatures.Ordered)
    (jobs : List Job) : (Access.afterAll signatures jobs).Ordered := by
  unfold Access.afterAll
  induction jobs generalizing signatures with
  | nil => exact ordered
  | cons job jobs inductionHypothesis => exact inductionHypothesis (ordered.after job)

/-- Jobs that are run in two parts leave what they leave in one. -/
theorem afterAll_append (signatures : SignatureSet) (jobs others : List Job) :
    afterAll signatures (jobs ++ others) = afterAll (afterAll signatures jobs) others :=
  List.foldl_append

/-- After some jobs there is what was there before, and what the jobs export that can be done. -/
theorem mem_afterAll {signatures : SignatureSet} {jobs : List Job} {signature : String} :
    signature ∈ (afterAll signatures jobs).signatures ↔
      signature ∈ signatures.signatures ∨ ∃ job ∈ jobs, job.Feasible ∧ job.Exports signature := by
  unfold afterAll
  induction jobs generalizing signatures with
  | nil => simp
  | cons job jobs inductionHypothesis =>
      rw [List.foldl_cons, inductionHypothesis, mem_after, or_assoc, List.exists_mem_cons_iff]

/-- Whether a job succeeds does not depend on the jobs before it. -/
theorem succeeds_iff {signatures : SignatureSet} {jobs : List Job} {job : Job} :
    Succeeds signatures jobs job ↔ job ∈ jobs ∧ job.Feasible := by
  constructor
  · rintro ⟨before, after, artifact, rfl, made⟩
    exact ⟨by simp, (exists_artifact_iff job _).1 ⟨artifact, made⟩⟩
  · rintro ⟨member, feasible⟩
    obtain ⟨before, after, split⟩ := List.append_of_mem member
    obtain ⟨artifact, made⟩ := (exists_artifact_iff job (afterAll signatures before)).2 feasible
    exact ⟨before, after, artifact, split, made⟩

/-! ## Other orders -/

/-- Jobs that are alike succeed together and export the same. -/
theorem Job.Alike.adds {job other : Job} (alike : job.Alike other) {signature : String}
    (adds : job.Feasible ∧ job.Exports signature) : other.Feasible ∧ other.Exports signature := by
  obtain ⟨⟨plan, compiled, known, kept⟩, otherPlan, otherCompiled, dialect, member, exports⟩ := adds
  rw [alike.source] at compiled otherCompiled
  refine ⟨⟨plan, compiled, ?_, ?_⟩, otherPlan, otherCompiled, dialect, ?_, exports⟩
  · exact fun dialect member => known dialect (alike.dialects.mem_iff.2 member)
  · exact fun dialect member => kept dialect (alike.dialects.mem_iff.2 member)
  · exact alike.dialects.mem_iff.1 member

/-- A job is alike itself. -/
theorem Job.Alike.refl (job : Job) : job.Alike job :=
  ⟨rfl, .refl _⟩

/-- Being alike goes both ways. -/
theorem Job.Alike.symm {job other : Job} (alike : job.Alike other) : other.Alike job :=
  ⟨alike.source.symm, alike.dialects.symm⟩

/-- Jobs add the same if each of them has one that is alike among the others. -/
theorem afterAll_eq_of_alike {signatures : SignatureSet} (ordered : signatures.Ordered)
    {jobs others : List Job} (covered : ∀ job ∈ jobs, ∃ other ∈ others, job.Alike other)
    (back : ∀ other ∈ others, ∃ job ∈ jobs, other.Alike job) :
    afterAll signatures jobs = afterAll signatures others := by
  have within {first second : List Job} {signature : String}
      (covered : ∀ job ∈ first, ∃ other ∈ second, job.Alike other)
      (added : ∃ job ∈ first, job.Feasible ∧ job.Exports signature) :
      ∃ job ∈ second, job.Feasible ∧ job.Exports signature := by
    obtain ⟨job, member, adds⟩ := added
    obtain ⟨other, isOther, alike⟩ := covered job member
    exact ⟨other, isOther, alike.adds adds⟩
  refine (ordered.afterAll jobs).ext (ordered.afterAll others) fun signature => ?_
  rw [mem_afterAll, mem_afterAll]
  exact or_congr_right ⟨within covered, within back⟩

/-- Jobs that are rearranged leave the same signatures. -/
theorem Rearranged.afterAll_eq {signatures : SignatureSet} (ordered : signatures.Ordered)
    {jobs others : List Job} (rearranged : Rearranged jobs others) :
    afterAll signatures jobs = afterAll signatures others := by
  obtain ⟨middle, permuted, alike⟩ := rearranged
  refine afterAll_eq_of_alike ordered (fun job member => ?_) (fun other member => ?_)
  · obtain ⟨other, paired, isAlike⟩ := exists_zip_of_mem_left alike (permuted.mem_iff.1 member)
    exact ⟨other, (List.of_mem_zip paired).2, isAlike⟩
  · obtain ⟨job, paired, isAlike⟩ := exists_zip_of_mem_right alike member
    exact ⟨job, permuted.mem_iff.2 (List.of_mem_zip paired).1, isAlike.symm⟩

/-- A job like one that is done anyway adds nothing, at any place. -/
theorem afterAll_repeated {signatures : SignatureSet} (ordered : signatures.Ordered)
    {before after : List Job} {job : Job} (known : ∃ other ∈ before ++ after, job.Alike other) :
    afterAll signatures (before ++ job :: after) = afterAll signatures (before ++ after) := by
  refine afterAll_eq_of_alike ordered (fun other isOther => ?_) (fun other isOther => ?_)
  · rcases List.mem_cons.1 (List.perm_middle.mem_iff.1 isOther) with rfl | isElse
    · exact known
    · exact ⟨other, isElse, .refl other⟩
  · exact ⟨other, List.perm_middle.mem_iff.2 (List.mem_cons_of_mem _ isOther), .refl other⟩

/-! ## The foot -/

/-- The line that a trait with methods starts with. -/
def traitHead : String := "pub trait Methods \x7b"

/-- The line that declares a method. -/
def declarationLine (declaration : String) : String := "    " ++ declaration ++ ";"

/-- The lines of a trait with some methods. -/
def methodsTrait (declarations : List String) : List String :=
  traitHead :: (declarations.map declarationLine ++ ["\x7d"])

/-- Lines with a newline behind each. -/
def unlines (lines : List String) : String :=
  String.join (lines.map (· ++ "\n"))

/-- The methods that the last lines of a text declare: those from the head of a trait to the brace
at the end, without the spaces before and the semicolon behind them. -/
def declaredMethods (text : String) : List String :=
  let lines := (Text.splitWhere (· = '\n') text.toList).map String.ofList
  ((lines.reverse.drop 2).takeWhile (· ≠ traitHead)).reverse.map fun line =>
    String.ofList (line.toList.drop 4).dropLast

/-- Lines are found again behind a newline. -/
theorem splitWhere_unlines (front : String) {lines : List String}
    (whole : ∀ line ∈ lines, '\n' ∉ line.toList) :
    (Text.splitWhere (· = '\n') (front ++ "\n" ++ unlines lines).toList).map String.ofList =
      (Text.splitWhere (· = '\n') front.toList).map String.ofList ++ (lines ++ [""]) := by
  have text : (front ++ "\n" ++ unlines lines).toList = front.toList ++ '\n' ::
      ((lines.map String.toList).flatMap (fun line => line ++ ['\n']) ++ []) := by
    simp [unlines, String.toList_join, List.flatMap_map]
  have free : ∀ line ∈ lines.map String.toList, ∀ c ∈ line, decide (c = '\n') = false := by
    intro characters member c inLine
    obtain ⟨line, isLine, rfl⟩ := List.mem_map.1 member
    exact decide_eq_false fun isNewline => whole line isLine (isNewline ▸ inLine)
  rw [text, Text.splitWhere_append (by decide), Text.splitWhere_flatMap (by decide) free]
  simp [Text.splitWhere]

/-- Methods of one line each are read back, whatever stands before the trait. -/
theorem declaredMethods_methodsTrait (front : String) {declarations : List String}
    (whole : ∀ declaration ∈ declarations, '\n' ∉ declaration.toList) :
    declaredMethods (front ++ "\n" ++ unlines (methodsTrait declarations)) = declarations := by
  have wholeLines : ∀ line ∈ methodsTrait declarations, '\n' ∉ line.toList := by
    rw [methodsTrait, List.forall_mem_cons, List.forall_mem_append, List.forall_mem_map]
    refine ⟨by decide, fun declaration member => ?_, by decide⟩
    simp [declarationLine, whole declaration member]
  have inside : ∀ line ∈ (declarations.map declarationLine).reverse,
      decide (line ≠ traitHead) = true := by
    intro line member
    obtain ⟨declaration, -, rfl⟩ := List.mem_map.1 (List.mem_reverse.1 member)
    simp [declarationLine, traitHead, ← String.toList_inj]
  have bare (declaration : String) :
      String.ofList ((declarationLine declaration).toList.drop 4).dropLast = declaration := by
    simp [declarationLine]
  have backwards (earlier : List String) :
      (earlier ++ (methodsTrait declarations ++ [""])).reverse.drop 2 =
        (declarations.map declarationLine).reverse ++ traitHead :: earlier.reverse := by
    simp [methodsTrait]
  unfold declaredMethods
  dsimp only
  rw [splitWhere_unlines front wholeLines, backwards, List.takeWhile_append_of_pos inside,
    List.takeWhile_cons_of_neg (by simp), List.append_nil, List.reverse_reverse, List.map_map]
  simp [Function.comp_def, bare]

/-- Lines of code are written with the indentation of their level. -/
theorem writeAll_codeLines (level : Nat) (texts : List String) :
    writeAll level (codeLines texts) = unlines (texts.map (indentation level ++ ·)) := by
  induction texts with
  | nil => rfl
  | cons text texts inductionHypothesis =>
      simp only [codeLines, unlines] at inductionHypothesis
      simp [codeLines, unlines, writeAll, Code.write, inductionHypothesis]

/-- The foot of a module is a comment and a trait with all signatures. -/
theorem footerText_eq (signatures : List String) :
    footerText signatures = "/// Data-access methods provided by every dialect receiver" ++ "\n" ++
      unlines (methodsTrait (signatures.map withoutExportMark)) := by
  have outer : indentation 0 = "" := by decide
  have inner : indentation 1 = "    " := by decide
  have body : (signatures.map fun signature => Code.line (withoutExportMark signature ++ ";")) =
      codeLines (signatures.map fun signature => withoutExportMark signature ++ ";") := by
    simp [codeLines]
  rw [footerText, body, ← String.toList_inj]
  simp [writeAll, Code.write, braces, writeAll_codeLines, outer, inner, methodsTrait, unlines,
    traitHead, declarationLine, String.toList_join, List.flatMap_map, Function.comp_def]

/-! ## Declarations -/

/-- An exported signature is its mark and what is behind it. -/
theorem append_withoutExportMark {signature : String} (exported : isExported signature = true) :
    "pub " ++ withoutExportMark signature = signature := by
  rw [← String.toList_inj, toList_eq_of_isExported exported]
  simp [exportMark]

/-- Exported signatures are in the same order without their marks. -/
theorem withoutExportMark_lt {first second : String} (firstExported : isExported first = true)
    (secondExported : isExported second = true) (before : first < second) :
    withoutExportMark first < withoutExportMark second := by
  rw [String.lt_iff, toList_eq_of_isExported firstExported,
    toList_eq_of_isExported secondExported] at before
  rw [String.lt_iff]
  simpa [exportMark] using before

/-- Texts that stand for the signatures of a set: each once and in the order of their bytes. -/
structure DeclaresAll (signatures : SignatureSet) (declarations : List String) : Prop where
  covers : ∀ declaration,
    declaration ∈ declarations ↔ "pub " ++ declaration ∈ signatures.signatures
  once : declarations.Nodup
  ascending : declarations.Pairwise BytesBefore

/-- Signatures in order are all declared, each once. -/
theorem SignatureSet.Ordered.declaresAll {signatures : SignatureSet}
    (ordered : signatures.Ordered) :
    DeclaresAll signatures (signatures.signatures.map withoutExportMark) := by
  have ascending : (signatures.signatures.map withoutExportMark).Pairwise (· < ·) := by
    rw [List.pairwise_map]
    refine ordered.ascending.imp_of_mem fun first second before => ?_
    exact withoutExportMark_lt (ordered.exported _ first) (ordered.exported _ second) before
  refine ⟨fun declaration => ?_, ascending.imp String.ne_of_lt,
    ascending.imp Text.bytesBefore_of_lt⟩
  rw [List.mem_map]
  constructor
  · rintro ⟨signature, member, rfl⟩
    rwa [append_withoutExportMark (ordered.exported signature member)]
  · intro member
    have marked := append_withoutExportMark (ordered.exported _ member)
    rw [← String.toList_inj, String.toList_append, String.toList_append] at marked
    exact ⟨_, member, String.toList_inj.1 (List.append_cancel_left marked)⟩

/-- A text is that of a module before it is formatted, and its foot declares all signatures that
there are after the module. -/
structure Footed (job : Job) (before : SignatureSet) (artifact : Artifact) (text : String)
    (declarations : List String) : Prop where
  unformatted : ({ job with formatter := verbatim } : Job).run before =
    .ok { artifact with source := text, formatted := true }
  formats : formatOrKeep job.formatter text = (artifact.source, artifact.formatted)
  ends : ∃ front, text = front ++ "\n" ++ unlines (methodsTrait declarations)
  declares : DeclaresAll artifact.signatures declarations

/-- The module of a job that succeeds ends with a foot that declares all signatures. -/
theorem exists_footed_of_run {job : Job} {signatures : SignatureSet} (ordered : signatures.Ordered)
    {artifact : Artifact} (made : job.run signatures = .ok artifact) :
    ∃ text declarations, Footed job signatures artifact text declarations := by
  obtain ⟨plan, outlined, text, compiled, written, recorded, kept⟩ := exists_written_of_run made
  refine ⟨text, artifact.signatures.signatures.map withoutExportMark, ?_, kept, ?_, ?_⟩
  · rw [recorded]
    exact run_of_written compiled written
  · obtain ⟨texts, -, equal⟩ := of_bind_eq_ok written.writes
    cases equal
    refine ⟨headerText outlined.header ++ String.join (outlined.structs.map structText) ++
      String.join texts ++ "/// Data-access methods provided by every dialect receiver", ?_⟩
    simp only [recorded, footerText_eq, String.append_assoc]
  · rw [recorded]
    exact (ordered.recordAll _).declaresAll

/-! ## The manifest -/

/-- What comes of jobs that share a set of signatures. -/
structure Accumulates (initial : SignatureSet) (jobs : List Job) : Prop where
  /-- The set grows by what the successful jobs export, and by nothing else. -/
  union : ∀ signature, signature ∈ (afterAll initial jobs).signatures ↔
    signature ∈ initial.signatures ∨ ∃ job, Succeeds initial jobs job ∧ job.Exports signature
  /-- The order of the jobs does not matter, nor that of the dialects of a job. -/
  anyOrder : ∀ others, Rearranged jobs others → afterAll initial others = afterAll initial jobs
  /-- A job like one of them changes nothing, wherever it is put. -/
  repeated : ∀ before after, jobs = before ++ after → ∀ job, (∃ other ∈ jobs, job.Alike other) →
    afterAll initial (before ++ job :: after) = afterAll initial jobs
  /-- Methods that read rows back are not in the set, and no job adds them in exported form. -/
  noReaders : ∀ dialect plan found, methods dialect plan = .ok found →
    ∀ reader ∈ found, reader.kind = .getLast →
      signatureText reader ∉ (afterAll initial jobs).signatures ∧
      ("pub " ++ signatureText reader ∈ (afterAll initial jobs).signatures →
        "pub " ++ signatureText reader ∈ initial.signatures)
  /-- Each module that is made declares the signatures that there are then. If those at the start
  are of one line each, all can be read from its text. -/
  declared : ∀ before job after, jobs = before ++ job :: after →
    ∀ artifact, job.run (afterAll initial before) = .ok artifact →
      artifact.signatures = afterAll initial (before ++ [job]) ∧
      ∃ text declarations, Footed job (afterAll initial before) artifact text declarations ∧
        ((∀ signature ∈ initial.signatures, '\n' ∉ signature.toList) →
          declaredMethods text = declarations)

/-- Jobs add signatures of one line each. -/
theorem newline_notMem_of_mem_afterAll {initial : SignatureSet}
    (whole : ∀ signature ∈ initial.signatures, '\n' ∉ signature.toList) {jobs : List Job}
    {signature : String} (member : signature ∈ (afterAll initial jobs).signatures) :
    '\n' ∉ signature.toList := by
  rcases mem_afterAll.1 member with before | ⟨job, -, -, exports⟩
  · exact whole signature before
  · obtain ⟨plan, compiled, dialect, -, found, made, isExport⟩ := exports
    exact newline_notMem_of_mem_exportedSignatures compiled made isExport

/-- The set that modules share is the union of what is exported by those that can be made. -/
theorem manifest_accumulates (recorded : List String) (jobs : List Job) :
    Accumulates (({} : SignatureSet).recordAll recorded) jobs := by
  have ordered := SignatureSet.ordered_empty.recordAll recorded
  generalize ({} : SignatureSet).recordAll recorded = initial at ordered
  refine ⟨fun signature => ?union, fun others rearranged => (rearranged.afterAll_eq ordered).symm,
    ?repeated, ?noReaders, ?declared⟩
  case union =>
    simp only [mem_afterAll, succeeds_iff, and_assoc]
  case repeated =>
    rintro before after rfl job known
    exact afterAll_repeated ordered known
  case noReaders =>
    intro dialect plan found made reader member isReader
    refine ⟨fun hidden => ?_, fun added => ?_⟩
    · have exported := (ordered.afterAll jobs).exported _ hidden
      rw [isExported_signatureText, (of_getLast made member isReader).1] at exported
      cases exported
    · rcases mem_afterAll.1 added with before | ⟨job, -, -, exports⟩
      · exact before
      · obtain ⟨other, -, otherDialect, -, others, otherMade, isExport⟩ := exports
        exact absurd rfl (ne_of_mem_exportedSignatures otherMade isExport made member isReader)
  case declared =>
    rintro before job after - artifact made
    obtain ⟨text, declarations, footed⟩ := exists_footed_of_run (ordered.afterAll before) made
    have isNext : artifact.signatures = afterAll initial (before ++ [job]) := by
      rw [afterAll_append]
      exact (Job.after_of_run made).symm
    refine ⟨isNext, text, declarations, footed, fun whole => ?_⟩
    obtain ⟨front, rfl⟩ := footed.ends
    refine declaredMethods_methodsTrait front fun declaration member => ?_
    have marked := (footed.declares.covers declaration).1 member
    rw [isNext] at marked
    simpa using newline_notMem_of_mem_afterAll whole marked

/-- The roster in some dialects. -/
def rosterJob (dialects : List Dialect) : Job := ⟨"roster", rosterSource, dialects, verbatim⟩

/-- A dialect without a driver. -/
def foreignDialect : Dialect := { Sql.sqlite3 with name := "mysql" }

/-- The roster fails in a foreign dialect. In two others it is made, and the methods that it exports
are read from its text, but not one that reads rows back. -/
theorem rosterJobs_accumulate :
    ¬Succeeds {} [rosterJob [foreignDialect], rosterJob [Sql.sqlite3, Sql.postgres]]
      (rosterJob [foreignDialect]) ∧
    ∃ artifact, (rosterJob [Sql.sqlite3, Sql.postgres]).run
        (afterAll {} [rosterJob [foreignDialect]]) = .ok artifact ∧
      "fn create_player(&mut self, team: Option<i32>) -> Result<Player>" ∈
        declaredMethods artifact.source ∧
      "fn get_last_player(&mut self, rowid: i64) -> Result<Player>" ∉
        declaredMethods artifact.source := by
  have accumulates := manifest_accumulates []
    [rosterJob [foreignDialect], rosterJob [Sql.sqlite3, Sql.postgres]]
  have foreign : ¬(rosterJob [foreignDialect]).Feasible := by
    rintro ⟨plan, -, known, -⟩
    exact absurd (known foreignDialect List.mem_cons_self) (by decide)
  have feasible : (rosterJob [Sql.sqlite3, Sql.postgres]).Feasible :=
    ⟨rosterPlan, compile_rosterSource, by decide, by decide⟩
  refine ⟨fun succeeds => foreign (succeeds_iff.1 succeeds).2, ?_⟩
  obtain ⟨artifact, made⟩ := (exists_artifact_iff _ (afterAll {} [rosterJob [foreignDialect]])).2
    feasible
  obtain ⟨found, foundMade⟩ := exists_methods Sql.sqlite3 rosterPlan (by decide)
  obtain ⟨isNext, text, declarations, footed, readBack⟩ :=
    accumulates.declared [rosterJob [foreignDialect]] _ [] rfl artifact made
  have source : artifact.source = text := (congrArg Prod.fst footed.formats).symm
  refine ⟨artifact, made, ?_⟩
  rw [source, readBack (List.forall_mem_nil _)]
  refine ⟨(footed.declares.covers _).2 ?_, mt (footed.declares.covers _).1 ?_⟩
  · have exports : (rosterJob [Sql.sqlite3, Sql.postgres]).Exports
        "pub fn create_player(&mut self, team: Option<i32>) -> Result<Player>" := by
      refine ⟨rosterPlan, compile_rosterSource, Sql.sqlite3, List.mem_cons_self, found, foundMade,
        ?_⟩
      rw [(exported_methods foundMade).2]
      decide
    exact (mem_signatures_of_run made).2 (.inr exports)
  · have isReader : ∃ reader ∈ found, reader.kind = .getLast ∧
        signatureText reader = "fn get_last_player(&mut self, rowid: i64) -> Result<Player>" := by
      have readers : (found.filter (·.kind = .getLast)).map signatureText =
          ["fn get_last_player(&mut self, rowid: i64) -> Result<Player>",
            "fn get_last_team(&mut self, rowid: i64) -> Result<Team>"] := by
        apply Option.some.inj
        have evaluated := congrArg (fun outcome => outcome.toOption.map fun found =>
          (found.filter (·.kind = .getLast)).map signatureText) foundMade
        exact evaluated.symm.trans (by decide +kernel)
      obtain ⟨reader, isReader, text⟩ := List.mem_map.1 (readers ▸ List.mem_cons_self)
      obtain ⟨member, kind⟩ := List.mem_filter.1 isReader
      exact ⟨reader, member, of_decide_eq_true kind, text⟩
    obtain ⟨reader, member, kind, text⟩ := isReader
    have added := (accumulates.noReaders _ _ found foundMade reader member kind).2
    rw [text] at added
    exact fun declared => absurd (added (isNext ▸ declared)) List.not_mem_nil

end Schemata.Access
