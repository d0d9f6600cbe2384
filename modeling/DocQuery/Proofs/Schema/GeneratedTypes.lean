import DocQuery.Proofs.Schema.GeneratedNames
import DocQuery.Proofs.Schema.WellFormed

/-!
# The generated types of a collection are well-formed

The types of one collection refer to each other only, an output field to object types
and an argument to input types. This is so for each of them because of the name that
it refers to: `TypeNames.of` of the generated types has that name.

Nothing depends on which fields the collection has beyond that their names are
identifiers, and that there is one where the collection can be filtered.
-/

namespace DocQuery

variable {names : TypeNames}

namespace TypeRef

@[simp] theorem named?_scalar (scalar : Scalar) : (TypeRef.scalar scalar).named? = none := rfl

@[simp] theorem named?_named (name : String) : (TypeRef.named name).named? = some name := rfl

@[simp] theorem named?_list (item : TypeRef) : (TypeRef.list item).named? = item.named? := rfl

@[simp] theorem named?_nonNull (inner : TypeRef) :
    (TypeRef.nonNull inner).named? = inner.named? := rfl

end TypeRef

/-- A field without arguments is well-formed if what it refers to is there. -/
theorem Field.wellFormed_of {name : String} {type : TypeRef} (identifier : Names.IsIdentifier name)
    (refers : ∀ typeName, type.named? = some typeName → names.object typeName) :
    (Field.of name type).WellFormed names where
  identifier := identifier
  refers := refers
  arguments := OrderedMap.indexes_empty

/-- A field stays well-formed with one more well-formed argument. -/
theorem Field.WellFormed.argument {field : Field} (formed : field.WellFormed names)
    {name : String} {type : TypeRef} (identifier : Names.IsIdentifier name)
    (refers : ∀ typeName, type.named? = some typeName → names.input typeName) :
    (field.argument name type).WellFormed names where
  identifier := formed.identifier
  refers := formed.refers
  arguments := by
    have new : (Argument.mk name type).WellFormed names := ⟨identifier, refers⟩
    exact formed.arguments.insert new

/-- How the value of a field is found does not matter. -/
theorem Field.WellFormed.resolvedBy {field : Field} (formed : field.WellFormed names)
    (resolver : Resolver) : (field.resolvedBy resolver).WellFormed names where
  identifier := formed.identifier
  refers := formed.refers
  arguments := formed.arguments

namespace ObjectType

/-- One more field is pushed behind the others. -/
theorem pushAll_concat (object : ObjectType) (fields : List Field) (field : Field) :
    object.pushAll (fields ++ [field]) = (object.pushAll fields).push field :=
  List.foldl_append

/-- Well-formed fields make a well-formed type. -/
theorem wellFormed_of_pushAll {name : String} {fields : List Field}
    (identifier : Names.IsIdentifier name) (inhabited : fields ≠ [])
    (formed : ∀ field ∈ fields, field.WellFormed names) :
    ((of name).pushAll fields).WellFormed names where
  identifier := by
    rw [name_pushAll]
    exact identifier
  inhabited := by
    rw [isEmpty_of_pushAll]
    exact List.isEmpty_eq_false_iff.mpr inhabited
  fields := by
    rw [fields_pushAll]
    exact OrderedMap.indexes_ofList formed

end ObjectType

namespace InputType

/-- Pushing fields binds each to its name. -/
theorem fields_pushAll (input : InputType) (fields : List (String × TypeRef)) :
    (input.pushAll fields).fields = input.fields.insertAll
      ((fields.map fun field => Argument.mk field.1 field.2).map
        fun argument => (argument.name, argument)) := by
  induction fields generalizing input with
  | nil => rfl
  | cons head rest ih => exact ih (input.push head.1 head.2)

/-- Pushed fields are found under their names, with what they have in common. -/
theorem indexes_of_pushAll {name : String} {fields : List (String × TypeRef)}
    {property : Argument → Prop} (hold : ∀ field ∈ fields, property ⟨field.1, field.2⟩) :
    ((of name).pushAll fields).fields.Indexes Argument.name property := by
  rw [fields_pushAll]
  apply OrderedMap.indexes_ofList
  intro argument member
  obtain ⟨field, listed, rfl⟩ := List.mem_map.mp member
  exact hold field listed

/-- Well-formed fields make a well-formed type. -/
theorem wellFormed_of_pushAll {name : String} {fields : List (String × TypeRef)}
    (identifier : Names.IsIdentifier name) (inhabited : fields ≠ [])
    (formed : ∀ field ∈ fields, (Argument.mk field.1 field.2).WellFormed names) :
    ((of name).pushAll fields).WellFormed names where
  identifier := by
    rw [Compile.name_pushAll_input]
    exact identifier
  inhabited := by
    rw [fields_pushAll, OrderedMap.isEmpty_insertAll]
    simp [inhabited]
  fields := indexes_of_pushAll formed

end InputType

/-- The names that a list of types has. -/
def TypeNames.of (types : List TypeDef) : TypeNames where
  object name := ∃ type, TypeDef.object type ∈ types ∧ type.name = name
  input name := ∃ type, TypeDef.input type ∈ types ∧ type.name = name

theorem AggregationKind.isIdentifier_name (kind : AggregationKind) :
    Names.IsIdentifier kind.name := by
  cases kind <;> decide

theorem Clause.isIdentifier_name (clause : Clause) : Names.IsIdentifier clause.name := by
  cases clause <;> decide

theorem RangeOp.isIdentifier_name (op : RangeOp) : Names.IsIdentifier op.name := by
  cases op <;> decide

namespace Compile

variable {identifier : String} {fields : List DocumentField} {field : DocumentField}

section Names

variable (named : Names.IsIdentifier identifier)

include named

theorem isIdentifier_kindName (kind : AggregationKind) :
    Names.IsIdentifier (kindName identifier kind) :=
  ((named.append (by decide)).append kind.isIdentifier_name.isWord).append (by decide)

theorem isIdentifier_clauseName (clause : Clause) :
    Names.IsIdentifier (clauseName identifier clause) := by
  have separated : Names.IsIdentifier (filterName identifier ++ "_") :=
    (named.append (by decide)).append (by decide)
  exact separated.append clause.isIdentifier_name.isWord

theorem isIdentifier_termName {field : String} (fieldNamed : Names.IsIdentifier field) :
    Names.IsIdentifier (termName identifier field) := by
  have separated : Names.IsIdentifier (identifier ++ "_") := named.append (by decide)
  exact (separated.append fieldNamed.isWord).append (by decide)

theorem isIdentifier_rangeName {field : String} (fieldNamed : Names.IsIdentifier field) :
    Names.IsIdentifier (rangeName identifier field) := by
  have separated : Names.IsIdentifier (identifier ++ "_") := named.append (by decide)
  exact (separated.append fieldNamed.isWord).append (by decide)

end Names

/-- The type of documents is well-formed by itself. -/
theorem wellFormed_documentType (named : Names.IsIdentifier identifier)
    (fieldsNamed : ∀ field ∈ fields, Names.IsIdentifier field.identifier) :
    (documentType identifier fields).WellFormed names := by
  rw [documentType, ← ObjectType.pushAll_concat]
  refine ObjectType.wellFormed_of_pushAll (named.append (by decide)) (by simp) ?_
  intro output member
  rcases List.mem_append.mp member with listed | last
  · obtain ⟨field, retained, rfl⟩ := List.mem_map.mp listed
    exact Field.wellFormed_of (fieldsNamed field retained) (by simp)
  · rw [List.mem_singleton.mp last]
    exact Field.wellFormed_of (by decide) (by simp)

/-- The type of percentiles is well-formed by itself. -/
theorem wellFormed_pairType : pairType.WellFormed names := by
  have formed : ∀ output ∈ [Field.of "key" Scalar.float, Field.of "value" Scalar.float],
      output.WellFormed names := by
    intro output member
    simp only [List.mem_cons, List.not_mem_nil, or_false] at member
    rcases member with rfl | rfl <;> exact Field.wellFormed_of (by decide) (by simp)
  exact ObjectType.wellFormed_of_pushAll (by decide) (by simp) formed

/-- The type of the results of a kind needs the type of percentiles at most. -/
theorem wellFormed_kindType (named : Names.IsIdentifier identifier)
    (fieldsNamed : ∀ field ∈ fields, Names.IsIdentifier field.identifier)
    (inhabited : fields ≠ []) (pair : names.object pairName) (kind : AggregationKind) :
    (kindType identifier fields kind).WellFormed names := by
  refine ObjectType.wellFormed_of_pushAll (isIdentifier_kindName named kind)
    (by simpa using inhabited) ?_
  intro output listed
  obtain ⟨field, retained, rfl⟩ := List.mem_map.mp listed
  refine Field.wellFormed_of (fieldsNamed field retained) ?_
  intro typeName refers
  cases kind with
  | percentiles =>
      obtain ⟨rfl⟩ := refers
      exact pair
  | _ => cases refers

/-- The types behind aggregations are well-formed where their names and that of the
type of percentiles are known. -/
theorem wellFormed_aggregationTypes (named : Names.IsIdentifier identifier)
    (fieldsNamed : ∀ field ∈ fields, Names.IsIdentifier field.identifier)
    (inhabited : fields ≠ []) (pair : names.object pairName)
    (own : ∀ type ∈ (aggregationTypes identifier fields).all, names.object type.name) :
    ∀ type ∈ (aggregationTypes identifier fields).all, type.WellFormed names := by
  have kinds : ∀ kind, names.object (kindName identifier kind) := by
    intro kind
    have member : kindType identifier fields kind ∈ (aggregationTypes identifier fields).all := by
      cases kind <;> simp [AggregationTypes.all, aggregationTypes, AggregationKind.all]
    have known := own _ member
    rw [kindType, ObjectType.name_pushAll] at known
    exact known
  intro type member
  simp only [AggregationTypes.all, aggregationTypes, List.mem_cons, List.mem_map] at member
  rcases member with rfl | ⟨kind, _, rfl⟩
  · refine ObjectType.wellFormed_of_pushAll (named.append (by decide))
      (by simp [AggregationKind.all]) ?_
    intro output listed
    obtain ⟨kind, _, rfl⟩ := List.mem_map.mp listed
    refine Field.wellFormed_of kind.isIdentifier_name ?_
    rintro typeName ⟨rfl⟩
    exact kinds kind
  · exact wellFormed_kindType named fieldsNamed inhabited pair kind

/-- The type of a clause needs the types of the conditions. -/
theorem wellFormed_clauseType (named : Names.IsIdentifier identifier)
    (fieldsNamed : ∀ field ∈ fields, Names.IsIdentifier field.identifier)
    (inhabited : fields ≠ [])
    (terms : ∀ field ∈ fields, names.input (termName identifier field.identifier))
    (clause : Clause) : (clauseType identifier fields clause).WellFormed names := by
  refine InputType.wellFormed_of_pushAll (isIdentifier_clauseName named clause)
    (by simpa using inhabited) ?_
  intro entry listed
  obtain ⟨field, retained, rfl⟩ := List.mem_map.mp listed
  refine ⟨fieldsNamed field retained, ?_⟩
  rintro typeName ⟨rfl⟩
  exact terms field retained

/-- The type of the conditions on a field needs the type of the bounds. -/
theorem wellFormed_termType (named : Names.IsIdentifier identifier)
    (fieldNamed : Names.IsIdentifier field.identifier)
    (range : names.input (rangeName identifier field.identifier)) :
    (termType identifier field).WellFormed names := by
  have formed : ∀ entry ∈ [("range", TypeRef.named (rangeName identifier field.identifier))],
      (Argument.mk entry.1 entry.2).WellFormed names := by
    intro entry listed
    rw [List.mem_singleton.mp listed]
    refine ⟨by show Names.IsIdentifier "range"; decide, ?_⟩
    rintro typeName ⟨rfl⟩
    exact range
  exact InputType.wellFormed_of_pushAll (isIdentifier_termName named fieldNamed) (by simp) formed

/-- The type of the bounds on a field is well-formed by itself. -/
theorem wellFormed_rangeType (named : Names.IsIdentifier identifier)
    (fieldNamed : Names.IsIdentifier field.identifier) :
    (rangeType identifier field).WellFormed names := by
  refine InputType.wellFormed_of_pushAll (isIdentifier_rangeName named fieldNamed)
    (by simp [RangeOp.all]) ?_
  intro entry listed
  obtain ⟨op, _, rfl⟩ := List.mem_map.mp listed
  exact ⟨op.isIdentifier_name, by simp⟩

/-- The types behind a filter argument are well-formed where their names are known. -/
theorem wellFormed_filterTypes (named : Names.IsIdentifier identifier)
    (fieldsNamed : ∀ field ∈ fields, Names.IsIdentifier field.identifier)
    (inhabited : fields ≠ [])
    (own : ∀ type ∈ (filterTypes identifier fields).all, names.input type.name) :
    ∀ type ∈ (filterTypes identifier fields).all, type.WellFormed names := by
  have clauses : ∀ clause, names.input (clauseName identifier clause) := by
    intro clause
    have member : clauseType identifier fields clause ∈ (filterTypes identifier fields).all := by
      cases clause <;> simp [FilterTypes.all, filterTypes, Clause.all]
    have known := own _ member
    rw [clauseType, name_pushAll_input] at known
    exact known
  have ofField : ∀ field ∈ fields, ∀ type ∈ [termType identifier field, rangeType identifier field],
      names.input type.name := by
    intro field retained type listed
    exact own type (List.mem_cons_of_mem _ (List.mem_append_right _
      (List.mem_flatMap.mpr ⟨field, retained, listed⟩)))
  have terms : ∀ field ∈ fields, names.input (termName identifier field.identifier) :=
    fun field retained => ofField field retained (termType identifier field) (by simp)
  have ranges : ∀ field ∈ fields, names.input (rangeName identifier field.identifier) := by
    intro field retained
    have known := ofField field retained (rangeType identifier field) (by simp)
    rw [rangeType, name_pushAll_input] at known
    exact known
  intro type member
  simp only [FilterTypes.all, filterTypes, List.mem_cons, List.mem_append, List.mem_map,
    List.mem_flatMap, List.not_mem_nil, or_false] at member
  rcases member with rfl | ⟨clause, _, rfl⟩ | ⟨field, retained, rfl | rfl⟩
  · refine InputType.wellFormed_of_pushAll (named.append (by decide)) (by simp [Clause.all]) ?_
    intro entry listed
    obtain ⟨clause, _, rfl⟩ := List.mem_map.mp listed
    refine ⟨clause.isIdentifier_name, ?_⟩
    rintro typeName ⟨rfl⟩
    exact clauses clause
  · exact wellFormed_clauseType named fieldsNamed inhabited terms clause
  · exact wellFormed_termType named (fieldsNamed field retained) (ranges field retained)
  · exact wellFormed_rangeType named (fieldsNamed field retained)

section RootFields

variable {target : Target} (named : Names.IsIdentifier target.identifier)

include named

/-- The list of documents refers to the type of documents, and to that of filters if it
takes one. -/
theorem wellFormed_listField {filtered : Bool}
    (documents : names.object (documentName target.identifier))
    (filters : filtered = true → names.input (filterName target.identifier)) :
    (listField target filtered).WellFormed names := by
  have list : (Field.of target.identifier
      (.list (.named (documentName target.identifier)))).WellFormed names := by
    refine Field.wellFormed_of named ?_
    rintro typeName ⟨rfl⟩
    exact documents
  have size : Names.IsIdentifier "size" := by decide
  have sized : (Field.argument _ "size" (.nonNull Scalar.int)).WellFormed names :=
    list.argument size (by simp)
  refine Field.WellFormed.resolvedBy ?_ _
  cases filtered with
  | false => exact sized
  | true =>
      refine sized.argument (by decide) ?_
      rintro typeName ⟨rfl⟩
      exact filters rfl

/-- A document by its id refers to the type of documents. -/
theorem wellFormed_byIdField (documents : names.object (documentName target.identifier)) :
    (byIdField target).WellFormed names := by
  refine Field.WellFormed.resolvedBy (Field.WellFormed.argument ?_ (by decide) (by simp)) _
  refine Field.wellFormed_of (named.append (by decide)) ?_
  rintro typeName ⟨rfl⟩
  exact documents

/-- Aggregations refer to the types of their results and of filters. -/
theorem wellFormed_aggregationsField
    (results : names.object (aggregationName target.identifier))
    (filters : names.input (filterName target.identifier)) :
    (aggregationsField target).WellFormed names := by
  refine Field.WellFormed.resolvedBy (Field.WellFormed.argument ?_ (by decide) ?_) _
  · refine Field.wellFormed_of (named.append (by decide)) ?_
    rintro typeName ⟨rfl⟩
    exact results
  · rintro typeName ⟨rfl⟩
    exact filters

end RootFields

end Compile

end DocQuery
