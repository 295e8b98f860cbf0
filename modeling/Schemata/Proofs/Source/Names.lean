import Schemata.Proofs.Source.Declarations

/-!
# Names are located at their own text

The bytes of a source at the place of a name are the text of the name. This holds of every name of a
schema that was read, except of the field of a reference: its place is counted as if the reference
were written without blanks. Blanks may stand around the dot, though, and then the bytes at that
place are others. So the field is located at its own text exactly if the reference is written as
its model, a dot, and its field.
-/

namespace Schemata

open Lexeme

/-- The bytes of a source at the place of a name are its text. -/
def Name.IsLocatedIn (source : String) (name : Name) : Prop :=
  source.toByteArray.extract name.position.offset (name.position.offset + name.size) =
    name.text.toByteArray

instance (source : String) (name : Name) : Decidable (name.IsLocatedIn source) :=
  inferInstanceAs (Decidable (_ = _))

/-- The bytes of the characters of a text are the bytes of the text. -/
theorem utf8Encode_toList (text : String) : text.toList.utf8Encode = text.toByteArray := by
  rw [← String.toByteArray_ofList, String.ofList_toList]

/-- A name at a place of the source stands there exactly if its bytes do. -/
theorem Name.isLocatedIn_iff {source : String} {name : Name}
    (place : IsPlace source name.position) : name.IsLocatedIn source ↔ name.StandsIn source := by
  rw [IsLocatedIn, StandsIn, place.standsAt_iff, utf8Encode_toList]
  rfl

namespace Declaration

/-! ## Names and references of a schema -/

/-- The names of a model, of its table, its fields, and the fields of its keys. -/
def Model.names (model : Model) : List Name :=
  model.name :: (model.table.toList ++ model.key.getD [] ++ model.uniques.flatten ++
    model.fields.map (·.name))

/-- The model that a select asks for as a whole. -/
def Projection.names : Projection → List Name
  | .model name => [name]
  | .field _ => []

/-- The field that a select asks for. -/
def Projection.references : Projection → List ColumnRef
  | .model _ => []
  | .field ref => [ref]

/-- The column that another one is compared with. -/
def Operand.references : Operand → List ColumnRef
  | .column ref => [ref]
  | _ => []

/-- The columns of a condition. -/
def Condition.references (condition : Condition) : List ColumnRef :=
  condition.left :: condition.right.references

/-- The columns of a join. -/
def Join.references (join : Join) : List ColumnRef := [join.left, join.right]

/-- The columns of a relation. -/
def Relation.references (relation : Relation) : List ColumnRef := [relation.left, relation.right]

/-- The columns that a select mentions. -/
def Select.references (select : Select) : List ColumnRef :=
  select.projections.flatMap Projection.references ++ select.joins.flatMap Join.references ++
    select.conditions.flatMap Condition.references ++ select.paging.toList.map (·.column)

/-- The columns that a delete or a count mentions. -/
def Filtered.references (query : Filtered) : List ColumnRef :=
  query.joins.flatMap Join.references ++ query.conditions.flatMap Condition.references

/-- All names of a schema outside of references. -/
def Schema.names (schema : Schema) : List Name :=
  schema.models.flatMap Model.names ++ schema.inserts.map (·.model) ++
    schema.selects.flatMap (fun select => select.projections.flatMap Projection.names) ++
    schema.updates.map (·.model) ++ schema.deletes.map (·.model) ++ schema.counts.map (·.model)

/-- All references of a schema. -/
def Schema.references (schema : Schema) : List ColumnRef :=
  schema.relations.flatMap Relation.references ++ schema.selects.flatMap Select.references ++
    schema.updates.flatMap (fun update => update.conditions.flatMap Condition.references) ++
    schema.deletes.flatMap Filtered.references ++ schema.counts.flatMap Filtered.references

variable {source : String}

/-- All names of a model stand in the source that it stands in. -/
theorem Model.StandsIn.names {model : Model} (stands : model.StandsIn source) :
    ∀ name ∈ model.names, name.StandsIn source := by
  intro name member
  simp only [Model.names, List.mem_cons, List.mem_append, Option.mem_toList, List.mem_flatten,
    List.mem_map] at member
  rcases member with rfl | ((inTable | inKey) | ⟨key, inUniques, inKey⟩) | ⟨field, inFields, rfl⟩
  · exact stands.name
  · exact stands.table name inTable
  · cases declared : model.key with
    | none => simp [declared] at inKey
    | some key =>
        rw [declared, Option.getD_some] at inKey
        exact stands.key key declared name inKey
  · exact stands.uniques key inUniques name inKey
  · exact stands.fields field inFields

/-- All names of a projection stand in the source that it stands in. -/
theorem Projection.StandsIn.names {projection : Projection} (stands : projection.StandsIn source) :
    ∀ name ∈ projection.names, name.StandsIn source := by
  cases projection with
  | model name => exact List.forall_mem_singleton.2 stands
  | field ref => exact List.forall_mem_nil _

/-- All references of a projection stand in the source that it stands in. -/
theorem Projection.StandsIn.references {projection : Projection}
    (stands : projection.StandsIn source) :
    ∀ ref ∈ projection.references, ref.StandsIn source := by
  cases projection with
  | model name => exact List.forall_mem_nil _
  | field ref => exact List.forall_mem_singleton.2 stands

/-- All references of a condition stand in the source that it stands in. -/
theorem Condition.StandsIn.references {condition : Condition} (stands : condition.StandsIn source) :
    ∀ ref ∈ condition.references, ref.StandsIn source := by
  refine List.forall_mem_cons.2 ⟨stands.left, ?_⟩
  have right := stands.right
  cases operand : condition.right with
  | column ref =>
      rw [operand] at right
      exact List.forall_mem_singleton.2 right
  | placeholder => exact List.forall_mem_nil _
  | literal value => exact List.forall_mem_nil _

/-- Both references of a join stand in the source that it stands in. -/
theorem Join.StandsIn.references {join : Join} (stands : join.StandsIn source) :
    ∀ ref ∈ join.references, ref.StandsIn source :=
  List.forall_mem_cons.2 ⟨stands.left, List.forall_mem_singleton.2 stands.right⟩

/-- Both references of a relation stand in the source that it stands in. -/
theorem Relation.StandsIn.references {relation : Relation} (stands : relation.StandsIn source) :
    ∀ ref ∈ relation.references, ref.StandsIn source :=
  List.forall_mem_cons.2 ⟨stands.left, List.forall_mem_singleton.2 stands.right⟩

/-- All references of a select stand in the source that it stands in. -/
theorem Select.StandsIn.references {select : Select} (stands : select.StandsIn source) :
    ∀ ref ∈ select.references, ref.StandsIn source := by
  simp only [Select.references, List.forall_mem_append, List.forall_mem_flatMap,
    List.forall_mem_map, Option.mem_toList]
  exact ⟨⟨⟨fun projection member => (stands.projections projection member).references,
    fun join member => (stands.joins join member).references⟩,
    fun condition member => (stands.conditions condition member).references⟩,
    fun paging member => (stands.paging paging member).column⟩

/-- All references of a filtered query stand in the source that it stands in. -/
theorem Filtered.StandsIn.references {query : Filtered} (stands : query.StandsIn source) :
    ∀ ref ∈ query.references, ref.StandsIn source := by
  simp only [Filtered.references, List.forall_mem_append, List.forall_mem_flatMap]
  exact ⟨fun join member => (stands.joins join member).references,
    fun condition member => (stands.conditions condition member).references⟩

/-- All names of a schema stand in the source that it stands in. -/
theorem Schema.StandsIn.names {schema : Schema} (stands : schema.StandsIn source) :
    ∀ name ∈ schema.names, name.StandsIn source := by
  simp only [Schema.names, List.forall_mem_append, List.forall_mem_flatMap, List.forall_mem_map]
  exact ⟨⟨⟨⟨⟨fun model member => (stands.models model member).names,
    fun insert member => (stands.inserts insert member).model⟩,
    fun select member projection asked =>
      ((stands.selects select member).projections projection asked).names⟩,
    fun update member => (stands.updates update member).model⟩,
    fun delete member => (stands.deletes delete member).model⟩,
    fun count member => (stands.counts count member).model⟩

/-- All references of a schema stand in the source that it stands in. -/
theorem Schema.StandsIn.references {schema : Schema} (stands : schema.StandsIn source) :
    ∀ ref ∈ schema.references, ref.StandsIn source := by
  simp only [Schema.references, List.forall_mem_append, List.forall_mem_flatMap]
  exact ⟨⟨⟨⟨fun relation member => (stands.relations relation member).references,
    fun select member => (stands.selects select member).references⟩,
    fun update member condition inUpdate =>
      ((stands.updates update member).conditions condition inUpdate).references⟩,
    fun delete member => (stands.deletes delete member).references⟩,
    fun count member => (stands.counts count member).references⟩

/-! ## References and their blanks -/

/-- The bytes of a source at the place of a reference are its model, a dot, and its field. -/
def ColumnRef.IsLocatedIn (source : String) (ref : ColumnRef) : Prop :=
  source.toByteArray.extract ref.position.offset (ref.position.offset + ref.size) =
    (ref.model.text ++ "." ++ ref.field.text).toByteArray

instance (source : String) (ref : ColumnRef) : Decidable (ref.IsLocatedIn source) :=
  inferInstanceAs (Decidable (_ = _))

/--
At a place of the source, its bytes are a reference exactly if the reference stands there without
blanks.
-/
theorem ColumnRef.isLocatedIn_iff {ref : ColumnRef} (place : IsPlace source ref.position) :
    ref.IsLocatedIn source ↔
      StandsAt source ref.position (spacedPath ref.model.text ref.field.text [] []) := by
  have size : ref.size = byteLength (spacedPath ref.model.text ref.field.text [] []) := by
    rw [spacedPath, byteLength_append, List.nil_append, List.nil_append, byteLength_cons]
    exact Nat.add_assoc _ 1 _
  have text : (spacedPath ref.model.text ref.field.text [] []).utf8Encode =
      (ref.model.text ++ "." ++ ref.field.text).toByteArray := by
    rw [← utf8Encode_toList]
    simp [spacedPath]
  rw [IsLocatedIn, place.standsAt_iff, text, size]

/-- No word stands where something else begins. -/
theorem not_standsAt_word {position : Position} {c : Char} {rest : List Char} {word : String}
    (stands : StandsAt source position (c :: rest)) (other : isNameRest c = false)
    (isWord : IsWord word) : ¬ StandsAt source position word.toList := by
  intro wordStands
  obtain ⟨starts, -⟩ := isWord
  cases shape : word.toList with
  | nil => simp [shape] at starts
  | cons first others =>
      rw [shape] at starts wordStands
      rw [stands.head_eq wordStands, (of_isNameStart starts).1] at other
      cases other

/-- A blank belongs to no name. -/
theorem isNameRest_of_isBlank {c : Char} (blank : isBlank c = true) : isNameRest c = false := by
  simp only [isBlank, Bool.or_eq_true, decide_eq_true_eq] at blank
  rcases blank with ((rfl | rfl) | rfl) | rfl <;> decide

/-- Behind blanks, a word stands right away exactly if there are none. -/
theorem standsAt_word_iff {position : Position} {word : String} (isWord : IsWord word)
    {gap : List Char} (blank : ∀ c ∈ gap, isBlank c = true)
    (stands : StandsAt source position (gap ++ word.toList)) :
    StandsAt source position word.toList ↔ gap = [] := by
  constructor
  · intro wordStands
    cases gap with
    | nil => rfl
    | cons c others =>
        have other := isNameRest_of_isBlank (blank c List.mem_cons_self)
        exact absurd wordStands (not_standsAt_word stands other isWord)
  · rintro rfl
    exact stands

section Blanks

variable {ref : ColumnRef} {before after : List Char}

/-- A reference is located at its own text exactly if it is written without blanks. -/
theorem ColumnRef.StandsIn.isLocatedIn_iff (stands : ref.StandsIn source)
    (blankBefore : ∀ c ∈ before, isBlank c = true) (blankAfter : ∀ c ∈ after, isBlank c = true)
    (text : StandsAt source ref.position (spacedPath ref.model.text ref.field.text before after)) :
    ref.IsLocatedIn source ↔ before = [] ∧ after = [] := by
  rw [ColumnRef.isLocatedIn_iff stands.isPlace]
  constructor
  · intro located
    have dotStands := located.right
    have gapStands := text.right
    have noneBefore : before = [] := by
      cases before with
      | nil => rfl
      | cons c others =>
          have same : '.' = c := dotStands.head_eq gapStands
          have blank := blankBefore c List.mem_cons_self
          rw [← same] at blank
          cases blank
    subst noneBefore
    refine ⟨rfl, ?_⟩
    exact (standsAt_word_iff stands.path.fieldWord blankAfter gapStands.tail).1 dotStands.tail
  · rintro ⟨rfl, rfl⟩
    exact text

/-- The field of a reference is located at its own text exactly if there are no blanks. -/
theorem ColumnRef.StandsIn.field_isLocatedIn_iff (stands : ref.StandsIn source)
    (blankBefore : ∀ c ∈ before, isBlank c = true) (blankAfter : ∀ c ∈ after, isBlank c = true)
    (text : StandsAt source ref.position (spacedPath ref.model.text ref.field.text before after)) :
    ref.field.IsLocatedIn source ↔ before = [] ∧ after = [] := by
  rw [Name.isLocatedIn_iff stands.isPlace_field, Name.StandsIn]
  have behind := text.right
  cases before with
  | nil =>
      rw [stands.counted_eq (c := '.') (by decide) (by decide),
        standsAt_word_iff stands.path.fieldWord blankAfter behind.tail]
      simp
  | cons c others =>
      have blank := blankBefore c List.mem_cons_self
      rw [stands.counted_eq (utf8Size_of_isBlank blank) (ne_newline_of_isBlank blank)]
      -- What comes next is another blank or the dot.
      have next : ∃ d rest, others ++ '.' :: (after ++ ref.field.text.toList) = d :: rest ∧
          isNameRest d = false := by
        cases others with
        | nil => exact ⟨'.', after ++ ref.field.text.toList, rfl, by decide⟩
        | cons d rest =>
            rw [List.forall_mem_cons, List.forall_mem_cons] at blankBefore
            exact ⟨d, rest ++ '.' :: (after ++ ref.field.text.toList), rfl,
              isNameRest_of_isBlank blankBefore.2.1⟩
      obtain ⟨d, rest, shape, other⟩ := next
      rw [List.cons_append, shape] at behind
      have absent := not_standsAt_word behind.tail other stands.path.fieldWord
      simpa using absent

end Blanks

/--
In a schema that was read, every name outside of references is located at its own text, and so is
the model of every reference. A reference is written with blanks around its dot. It and its field
are located at their own text exactly if there are no such blanks.
-/
theorem names_located {source : String} {schema : Schema}
    (parsed : Schema.parse source = .ok schema) :
    (∀ name ∈ schema.names, name.IsLocatedIn source) ∧
    ∀ ref ∈ schema.references, ref.model.IsLocatedIn source ∧
      (ref.field.IsLocatedIn source ↔ ref.IsLocatedIn source) ∧
      ∃ before after, (∀ c ∈ before, isBlank c = true) ∧ (∀ c ∈ after, isBlank c = true) ∧
        source.toByteArray.extract ref.position.offset (ref.position.offset +
            byteLength (spacedPath ref.model.text ref.field.text before after)) =
          (spacedPath ref.model.text ref.field.text before after).utf8Encode ∧
        (ref.IsLocatedIn source ↔ before = [] ∧ after = []) := by
  have stands := (Schema.parse_within source).of_ok parsed
  constructor
  · intro name member
    have named := stands.names name member
    exact (Name.isLocatedIn_iff named.isPlace).2 named
  · intro ref member
    have refStands := stands.references ref member
    obtain ⟨before, after, blankBefore, blankAfter, text⟩ := refStands.path.text
    have whole := refStands.isLocatedIn_iff blankBefore blankAfter text
    have half := refStands.field_isLocatedIn_iff blankBefore blankAfter text
    refine ⟨?_, half.trans whole.symm, before, after, blankBefore, blankAfter, text.extract_eq,
      whole⟩
    exact (Name.isLocatedIn_iff refStands.isPlace).2 text.left

/-- An insert, and a relation whose first reference is spaced out. -/
def spacedReferenceSource : String :=
  "insert user
relation post . user_id user.id
"

/-- What it declares. -/
def spacedReferenceSchema : Schema where
  relations := [{
    left := ⟨⟨"post", ⟨2, 10, 21⟩⟩, ⟨"user_id", ⟨2, 15, 26⟩⟩⟩
    right := ⟨⟨"user", ⟨2, 25, 36⟩⟩, ⟨"id", ⟨2, 30, 41⟩⟩⟩
    position := ⟨2, 1, 12⟩ }]
  inserts := [⟨⟨"user", ⟨1, 8, 7⟩⟩, ⟨1, 1, 0⟩⟩]

/-- The schema of the source with blanks around a dot. -/
theorem parse_spacedReferenceSource :
    Schema.parse spacedReferenceSource = .ok spacedReferenceSchema := by
  apply eq_ok_of_toOption
  unfold spacedReferenceSource
  rw [Schema.parse_ofList]
  decide +kernel

/-- The inserted model, the first model and the second field are located at their own texts. -/
theorem spacedReferenceSchema_located :
    Schema.parse spacedReferenceSource = .ok spacedReferenceSchema ∧
    (Name.mk "user" ⟨1, 8, 7⟩).IsLocatedIn spacedReferenceSource ∧
    (Name.mk "post" ⟨2, 10, 21⟩).IsLocatedIn spacedReferenceSource ∧
    (Name.mk "id" ⟨2, 30, 41⟩).IsLocatedIn spacedReferenceSource := by
  obtain ⟨names, references⟩ := names_located parse_spacedReferenceSource
  obtain ⟨first, -⟩ := references ⟨⟨"post", ⟨2, 10, 21⟩⟩, ⟨"user_id", ⟨2, 15, 26⟩⟩⟩ (by decide)
  obtain ⟨-, second, -⟩ := references ⟨⟨"user", ⟨2, 25, 36⟩⟩, ⟨"id", ⟨2, 30, 41⟩⟩⟩ (by decide)
  exact ⟨parse_spacedReferenceSource, names _ (by decide), first, second.2 (by decide +kernel)⟩

/-- The field of the first reference is not located at its own text, nor is the reference. -/
theorem spacedReferenceSchema_dislocated :
    Schema.parse spacedReferenceSource = .ok spacedReferenceSchema ∧
    ∃ ref ∈ spacedReferenceSchema.references,
      ¬ ref.field.IsLocatedIn spacedReferenceSource ∧ ¬ ref.IsLocatedIn spacedReferenceSource :=
  ⟨parse_spacedReferenceSource, ⟨⟨"post", ⟨2, 10, 21⟩⟩, ⟨"user_id", ⟨2, 15, 26⟩⟩⟩, by decide,
    by decide +kernel⟩

end Declaration

end Schemata
