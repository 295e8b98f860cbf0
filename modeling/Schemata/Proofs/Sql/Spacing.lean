import Schemata.Proofs.Sql.Fragments
import Schemata.Proofs.Sql.Reading

/-!
# Fragments whose pieces do not run together

Two pieces of a statement could be misread together, such as a number behind a placeholder or a
quote behind a quoted name. This does not happen where every name, literal and placeholder is
followed by words that start with neither a quote nor a digit. `Spaced` says so of a whole fragment,
and in such a fragment exactly the placeholders of its parameters are found
(`Spaced.placeholdersIn_write`). `Open`, `Closed` and `Clause` say it of the parts that a fragment
is put together from, for everything that may stand behind them.
-/

namespace Schemata.Sql

/-- The placeholders of a number of parameters that follow others, in order. -/
def numberedPlaceholders (style : PlaceholderStyle) (before count : Nat) : List String :=
  (List.range' (before + 1) count).map style.placeholder

namespace Fragment

/-- A fragment that may stand behind any piece: it starts with words that break. -/
def StartsApart : Fragment → Prop
  | [] => True
  | .words text :: _ => text ≠ "" ∧ Breaks text.toList
  | _ => False

/-- A fragment whose words are quiet and whose other pieces are kept apart by words. -/
def Spaced (style : PlaceholderStyle) : Fragment → Prop
  | [] => True
  | .words text :: rest => Quiet style text ∧ Spaced style rest
  | _ :: rest => StartsApart rest ∧ Spaced style rest

variable {style : PlaceholderStyle}

/-- The text of a fragment that starts apart breaks. -/
theorem StartsApart.breaks {fragment : Fragment} (apart : fragment.StartsApart) (count : Nat) :
    Breaks (fragment.write style count).toList := by
  match fragment, apart with
  | [], _ => simp [write, Breaks]
  | .words text :: rest, ⟨nonempty, breaks⟩ =>
      obtain ⟨c, others, shape⟩ : ∃ c others, text.toList = c :: others :=
        List.exists_cons_of_ne_nil (by simpa using nonempty)
      simpa [write, Breaks, shape] using breaks

/-- In a spaced fragment exactly the placeholders of its parameters are found, in order. -/
theorem Spaced.placeholdersIn_write {fragment : Fragment} (spaced : fragment.Spaced style)
    (count : Nat) :
    placeholdersIn style (fragment.write style count).toList =
      numberedPlaceholders style count fragment.params.length := by
  induction fragment generalizing count with
  | nil => rfl
  | cons piece rest inductionHypothesis =>
      cases piece with
      | words text =>
          obtain ⟨quiet, restSpaced⟩ := spaced
          rw [write, String.toList_append, placeholdersIn_words quiet]
          exact inductionHypothesis restSpaced count
      | name name =>
          obtain ⟨apart, restSpaced⟩ := spaced
          rw [write, String.toList_append,
            placeholdersIn_identifier style name (apart.breaks count)]
          exact inductionHypothesis restSpaced count
      | literal value =>
          obtain ⟨apart, restSpaced⟩ := spaced
          rw [write, String.toList_append, placeholdersIn_literal style value (apart.breaks count)]
          exact inductionHypothesis restSpaced count
      | param param =>
          obtain ⟨apart, restSpaced⟩ := spaced
          rw [write, String.toList_append,
            placeholdersIn_placeholder style (count + 1) (apart.breaks (count + 1)),
            inductionHypothesis restSpaced (count + 1)]
          rfl

/-! ## Spaced fragments from their parts -/

/-- A fragment that may stand behind any piece and is spaced itself. -/
def Follows (style : PlaceholderStyle) (fragment : Fragment) : Prop :=
  fragment.StartsApart ∧ fragment.Spaced style

/-- A fragment that ends with words: every spaced fragment may follow it. -/
def Open (style : PlaceholderStyle) (fragment : Fragment) : Prop :=
  ∀ rest, Spaced style rest → Spaced style (fragment ++ rest)

/-- A fragment that may end with any piece: what follows it has to start apart. -/
def Closed (style : PlaceholderStyle) (fragment : Fragment) : Prop :=
  ∀ rest, Follows style rest → Spaced style (fragment ++ rest)

/-- A fragment that may follow any piece, and what follows it has to start apart. -/
def Clause (style : PlaceholderStyle) (fragment : Fragment) : Prop :=
  ∀ rest, Follows style rest → Follows style (fragment ++ rest)

/-- Words that may stand behind any piece. -/
def Joint (style : PlaceholderStyle) (text : String) : Prop :=
  Quiet style text ∧ text ≠ "" ∧ Breaks text.toList

instance (style : PlaceholderStyle) (text : String) : Decidable (Joint style text) :=
  inferInstanceAs (Decidable (Quiet style text ∧ text ≠ "" ∧ Breaks text.toList))

/-- Quiet words are open: they end with no piece that could run into another. -/
theorem open_words {text : String} (quiet : Quiet style text) : Open style [.words text] :=
  fun _ spaced => ⟨quiet, spaced⟩

/-- A name has to be kept apart from what follows it. -/
theorem closed_name (name : String) : Closed style [.name name] :=
  fun _ follows => follows

/-- A literal has to be kept apart from what follows it. -/
theorem closed_literal (value : Literal) : Closed style [.literal value] :=
  fun _ follows => follows

/-- A placeholder has to be kept apart from what follows it. -/
theorem closed_param (param : Param) : Closed style [.param param] :=
  fun _ follows => follows

/-- Nothing may stand behind any piece. -/
theorem clause_nil : Clause style [] :=
  fun _ follows => follows

/-- What every fragment may follow, a fragment that starts apart may follow too. -/
theorem Open.closed {fragment : Fragment} (isOpen : Open style fragment) : Closed style fragment :=
  fun rest follows => isOpen rest follows.2

/-- A clause is closed, as it is when nothing stands in front of it. -/
theorem Clause.closed {fragment : Fragment} (clause : Clause style fragment) :
    Closed style fragment :=
  fun rest follows => (clause rest follows).2

/-- A fragment that may end with any piece is spaced where it ends. -/
theorem Closed.spaced {fragment : Fragment} (closed : Closed style fragment) :
    Spaced style fragment := by
  simpa using closed [] ⟨trivial, trivial⟩

/-- Behind an open fragment a closed one needs no words between them. -/
theorem Open.append {first second : Fragment} (isOpen : Open style first)
    (closed : Closed style second) : Closed style (first ++ second) := by
  intro rest follows
  rw [List.append_assoc]
  exact isOpen _ (closed rest follows)

/-- Behind a closed fragment a clause keeps itself apart. -/
theorem Closed.append {first second : Fragment} (closed : Closed style first)
    (clause : Clause style second) : Closed style (first ++ second) := by
  intro rest follows
  rw [List.append_assoc]
  exact closed _ (clause rest follows)

/-- Words that may stand behind any piece open a closed fragment. -/
theorem Closed.words {fragment : Fragment} (closed : Closed style fragment) (text : String)
    (joint : Joint style text) : Open style (fragment ++ [.words text]) := by
  intro rest spaced
  rw [List.append_assoc]
  exact closed _ ⟨joint.2, joint.1, spaced⟩

/-- A clause is introduced by words that may stand behind any piece. -/
theorem Closed.clause {text : String} {fragment : Fragment} (closed : Closed style fragment)
    (joint : Joint style text) : Clause style ([.words text] ++ fragment) := by
  intro rest follows
  exact ⟨joint.2, joint.1, closed rest follows⟩

/-- Clauses follow each other. -/
theorem Clause.append {first second : Fragment} (clause : Clause style first)
    (further : Clause style second) : Clause style (first ++ second) := by
  intro rest follows
  rw [List.append_assoc]
  exact clause _ (further rest follows)

/-- Fragments with words between them. -/
theorem closed_separated {separator : String} (joint : Joint style separator)
    {fragments : List Fragment} (closed : ∀ fragment ∈ fragments, Closed style fragment) :
    Closed style (separated separator fragments) := by
  induction fragments with
  | nil => exact clause_nil.closed
  | cons first others inductionHypothesis =>
      have firstClosed := closed first List.mem_cons_self
      have othersClosed := inductionHypothesis fun fragment member =>
        closed fragment (List.mem_cons_of_mem first member)
      cases others with
      | nil => exact firstClosed
      | cons second others => exact (firstClosed.words separator joint).append othersClosed

end Fragment

end Schemata.Sql
