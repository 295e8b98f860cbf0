import Schemata.Analysis.Problem

/-!
# Values with problems

Resolution does not stop at the first problem: a step that fails reports it, gives
the best value it can, and lets the next step go on. `Checked` carries a value
together with the problems that were reported on the way to it, in order.
-/

namespace Schemata.Analysis

/-- A value, and the problems met on the way to it. -/
structure Checked (α : Type) where
  value : α
  problems : List Problem

namespace Checked

variable {α β : Type}

instance : Monad Checked where
  pure value := ⟨value, []⟩
  bind first next :=
    let second := next first.value
    ⟨second.value, first.problems ++ second.problems⟩

@[simp]
theorem value_pure (value : α) : (pure value : Checked α).value = value := rfl

@[simp]
theorem problems_pure (value : α) : (pure value : Checked α).problems = [] := rfl

@[simp]
theorem value_bind (first : Checked α) (next : α → Checked β) :
    (first >>= next).value = (next first.value).value := rfl

@[simp]
theorem problems_bind (first : Checked α) (next : α → Checked β) :
    (first >>= next).problems = first.problems ++ (next first.value).problems := rfl

/-- Problems are put together in one way only, however steps are grouped. -/
instance : LawfulMonad Checked := LawfulMonad.mk' Checked
  (fun checked => by cases checked; simp [Functor.map])
  (fun value next => by simp [bind, pure])
  (fun first next last => by simp [bind, List.append_assoc])

/-- Report problems. -/
def reportAll (problems : List Problem) : Checked Unit :=
  ⟨(), problems⟩

/-- Report a problem. -/
def report (position : Position) (cause : Cause) : Checked Unit :=
  reportAll [⟨position, cause⟩]

/-- Whether no problem was met. -/
def isClean (checked : Checked α) : Bool :=
  checked.problems.isEmpty

/-- The value if no problem was met; the problems stay reported. -/
def ifClean (checked : Checked α) : Checked (Option α) :=
  ⟨if checked.isClean then some checked.value else none, checked.problems⟩

@[simp]
theorem problems_ifClean (checked : Checked α) : checked.ifClean.problems = checked.problems := rfl

/-- A value survives exactly when no problem was met. -/
theorem value_ifClean_eq_some_iff (checked : Checked α) (value : α) :
    checked.ifClean.value = some value ↔ checked.problems = [] ∧ checked.value = value := by
  cases problems : checked.problems <;> simp [ifClean, isClean, problems]

end Checked

end Schemata.Analysis
