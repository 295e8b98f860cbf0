import Schemata.Analysis.Checked

/-!
# Runs that mirror each other

A step is run twice, on some input and on an image of it. The second run mirrors the first if both
go the same way and the second ends with the image of what the first ends with. For readers, which
stop at what they refuse, both refuse or none does; for checked steps, which go on, both report
problems or none does. What is said in refusals and problems may differ.
-/

namespace Schemata

variable {α β γ δ ε : Type}

/-- Two readings that go the same way: both refuse, or the second reads the image of the first. -/
inductive Mirrors (image : α → β) : Except ε α → Except ε β → Prop where
  | ok (value : α) : Mirrors image (.ok value) (.ok (image value))
  | error (refusal mirrored : ε) : Mirrors image (.error refusal) (.error mirrored)

namespace Mirrors

variable {image : α → β} {nextImage : γ → δ}

/-- Two values go the same way if the second is the image of the first. -/
theorem of_eq {value : α} {mirrored : β} (same : mirrored = image value) :
    Mirrors image (.ok value : Except ε α) (.ok mirrored) :=
  same ▸ .ok value

/-- The second reading is the image of the first as far as it succeeds. -/
theorem toOption_eq {first : Except ε α} {second : Except ε β}
    (mirrors : Mirrors image first second) : second.toOption = first.toOption.map image := by
  cases mirrors <;> rfl

/-- Where the second reading succeeds, it has read the image of what the first has read. -/
theorem exists_of_ok {first : Except ε α} {mirrored : β}
    (mirrors : Mirrors image first (.ok mirrored)) :
    ∃ value, first = .ok value ∧ image value = mirrored := by
  have same := mirrors.toOption_eq
  cases first with
  | error refusal => cases same
  | ok value => exact ⟨value, rfl, (Option.some.inj same).symm⟩

/-- Readings one after another mirror each other if each of them does. -/
theorem bind {first : Except ε α} {second : Except ε β} {next : α → Except ε γ}
    {nextSecond : β → Except ε δ} (mirrors : Mirrors image first second)
    (nextMirrors : ∀ value, Mirrors nextImage (next value) (nextSecond (image value))) :
    Mirrors nextImage (first >>= next) (second >>= nextSecond) := by
  cases mirrors with
  | ok value => exact nextMirrors value
  | error refusal mirrored => exact .error refusal mirrored

/-- Both readings ask the same and go on alike. -/
theorem ite {asked askedImage : Prop} [Decidable asked] [Decidable askedImage]
    {yes no : Except ε α} {yesImage noImage : Except ε β} (same : askedImage ↔ asked)
    (yesMirrors : asked → Mirrors image yes yesImage)
    (noMirrors : ¬ asked → Mirrors image no noImage) :
    Mirrors image (if asked then yes else no) (if askedImage then yesImage else noImage) := by
  by_cases holds : asked
  · rw [if_pos holds, if_pos (same.2 holds)]
    exact yesMirrors holds
  · rw [if_neg holds, if_neg fun other => holds (same.1 other)]
    exact noMirrors holds

/-- Reading every item of a list mirrors reading every image. -/
theorem mapM {items : List α} {read : α → Except ε γ} {readImage : β → Except ε δ}
    (itemMirrors : ∀ item, Mirrors nextImage (read item) (readImage (image item))) :
    Mirrors (List.map nextImage) (items.mapM read) ((items.map image).mapM readImage) := by
  induction items with
  | nil => exact .ok []
  | cons item items inductionHypothesis =>
      rw [List.map_cons, List.mapM_cons, List.mapM_cons]
      refine (itemMirrors item).bind fun value => ?_
      exact inductionHypothesis.bind fun values => .ok (value :: values)

/-- Going through a list with a state mirrors going through its images with the state's image. -/
theorem foldlM {items : List α} {step : γ → α → Except ε γ} {stepImage : δ → β → Except ε δ}
    (stepMirrors : ∀ state item,
      Mirrors nextImage (step state item) (stepImage (nextImage state) (image item)))
    (state : γ) :
    Mirrors nextImage (items.foldlM step state)
      ((items.map image).foldlM stepImage (nextImage state)) := by
  induction items generalizing state with
  | nil => exact .ok state
  | cons item items inductionHypothesis =>
      rw [List.map_cons, List.foldlM_cons, List.foldlM_cons]
      exact (stepMirrors state item).bind inductionHypothesis

end Mirrors

namespace Analysis.Checked

/-- Two checked values of which the second is the image of the first; both have problems or none. -/
structure Mirrors (image : α → β) (first : Checked α) (second : Checked β) : Prop where
  value : second.value = image first.value
  clean : second.problems = [] ↔ first.problems = []

variable {image : α → β} {nextImage : γ → δ}

/-- A value without problems is mirrored by its image. -/
theorem mirrors_pure (value : α) : Mirrors image (pure value) (pure (image value)) :=
  ⟨rfl, Iff.rfl⟩

/-- A value without problems is mirrored by whatever equals its image. -/
theorem mirrors_of_eq {value : α} {mirrored : β} (same : mirrored = image value) :
    Mirrors image (pure value) (pure mirrored) :=
  ⟨same, Iff.rfl⟩

/-- Reports mirror each other if both report something or none does. -/
theorem mirrors_reportAll {problems mirrored : List Problem}
    (clean : mirrored = [] ↔ problems = []) :
    Mirrors id (reportAll problems) (reportAll mirrored) :=
  ⟨rfl, clean⟩

/-- Whatever two reports say and wherever, they mirror each other. -/
theorem mirrors_report (position mirroredPosition : Position) (cause mirroredCause : Cause) :
    Mirrors id (report position cause) (report mirroredPosition mirroredCause) :=
  mirrors_reportAll (iff_of_false (List.cons_ne_nil _ _) (List.cons_ne_nil _ _))

/-- Steps one after another mirror each other if each of them does. -/
theorem Mirrors.bind {first : Checked α} {second : Checked β} {next : α → Checked γ}
    {nextSecond : β → Checked δ} (mirrors : Mirrors image first second)
    (nextMirrors : ∀ value, Mirrors nextImage (next value) (nextSecond (image value))) :
    Mirrors nextImage (first >>= next) (second >>= nextSecond) := by
  have after := nextMirrors first.value
  rw [← mirrors.value] at after
  refine ⟨after.value, ?_⟩
  rw [problems_bind, problems_bind, List.append_eq_nil_iff, List.append_eq_nil_iff, mirrors.clean,
    after.clean]

/-- Both steps ask the same and go on alike. -/
theorem Mirrors.ite {asked askedImage : Prop} [Decidable asked] [Decidable askedImage]
    {yes no : Checked α} {yesImage noImage : Checked β} (same : askedImage ↔ asked)
    (yesMirrors : asked → Mirrors image yes yesImage)
    (noMirrors : ¬ asked → Mirrors image no noImage) :
    Mirrors image (if asked then yes else no) (if askedImage then yesImage else noImage) := by
  by_cases holds : asked
  · rw [if_pos holds, if_pos (same.2 holds)]
    exact yesMirrors holds
  · rw [if_neg holds, if_neg fun other => holds (same.1 other)]
    exact noMirrors holds

/-- Asking whether all is clean gives the same answer in both runs. -/
theorem Mirrors.ifClean {first : Checked α} {second : Checked β}
    (mirrors : Mirrors image first second) :
    Mirrors (Option.map image) first.ifClean second.ifClean := by
  refine ⟨?_, mirrors.clean⟩
  have sameAnswer : second.isClean = first.isClean := by
    rw [Bool.eq_iff_iff, isClean, isClean, List.isEmpty_iff, List.isEmpty_iff, mirrors.clean]
  rw [Checked.ifClean, Checked.ifClean, sameAnswer, mirrors.value]
  cases first.isClean <;> rfl

/-- A step for every item of a list mirrors the steps for all images. -/
theorem Mirrors.mapM {items : List α} {step : α → Checked γ} {stepImage : β → Checked δ}
    (itemMirrors : ∀ item, Mirrors nextImage (step item) (stepImage (image item))) :
    Mirrors (List.map nextImage) (items.mapM step) ((items.map image).mapM stepImage) := by
  induction items with
  | nil => exact mirrors_pure []
  | cons item items inductionHypothesis =>
      rw [List.map_cons, List.mapM_cons, List.mapM_cons]
      refine (itemMirrors item).bind fun value => ?_
      exact inductionHypothesis.bind fun values => mirrors_pure (value :: values)

/-- Going through a list with a state mirrors going through its images with the state's image. -/
theorem Mirrors.foldlM {items : List α} {step : γ → α → Checked γ} {stepImage : δ → β → Checked δ}
    (stepMirrors : ∀ state item,
      Mirrors nextImage (step state item) (stepImage (nextImage state) (image item)))
    (state : γ) :
    Mirrors nextImage (items.foldlM step state)
      ((items.map image).foldlM stepImage (nextImage state)) := by
  induction items generalizing state with
  | nil => exact mirrors_pure state
  | cons item items inductionHypothesis =>
      rw [List.map_cons, List.foldlM_cons, List.foldlM_cons]
      exact (stepMirrors state item).bind inductionHypothesis

end Analysis.Checked

end Schemata
