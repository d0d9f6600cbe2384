import DocQuery.Proofs.Schema.Assembly

/-!
# Generated names

Every root field and every type of a collection is named after the collection,
with an ending that tells its role; only the type of percentiles is shared. A
name with the ending of documents belongs to the collection in front of the
ending, or to one whose name is a proper beginning of that.
-/

namespace DocQuery.Compile

variable {config : Config}

/-- A text comes no later than anything that starts with it. -/
theorem le_append (text more : String) : text ≤ text ++ more := by
  have chars : List.le text.toList (text ++ more).toList := by
    rw [String.toList_append]
    exact List.le_append_left
  exact chars

/-- A text with something behind it is another text. -/
theorem append_ne_self {text more : String} (some : more ≠ "") : text ++ more ≠ text := by
  intro same
  exact some (String.append_right_inj text |>.mp (by simpa using same))

/-- Of two endings of one text, one ends the other. -/
theorem endings_of_append_eq {front other ending otherEnding : String}
    (same : front ++ ending = other ++ otherEnding) :
    ending.toList <:+ otherEnding.toList ∨ otherEnding.toList <:+ ending.toList := by
  have chars := congrArg String.toList same
  rw [String.toList_append, String.toList_append] at chars
  have first : ending.toList <:+ front.toList ++ ending.toList := List.suffix_append _ _
  have second : otherEnding.toList <:+ front.toList ++ ending.toList :=
    chars ▸ List.suffix_append _ _
  exact List.suffix_or_suffix_of_suffix first second

/-- What a generated type is for. -/
inductive TypeRole where
  | document
  | filter
  | clause (combining : Clause)
  | term (field : String)
  | range (field : String)
  | aggregations
  | kind (computing : AggregationKind)
  deriving DecidableEq

/-- What is appended to the name of a collection to name a type. -/
def TypeRole.ending : TypeRole → String
  | .document => "_document"
  | .filter => "_boolean_args"
  | .clause combining => "_boolean_args_" ++ combining.name
  | .term field => "_" ++ field ++ "_term_level_args"
  | .range field => "_" ++ field ++ "_range_args"
  | .aggregations => "_aggregation_document"
  | .kind computing => "_" ++ computing.name ++ "_aggregation_document"

@[simp] theorem name_pushAll_input (input : InputType) (fields : List (String × TypeRef)) :
    (input.pushAll fields).name = input.name := by
  induction fields generalizing input with
  | nil => rfl
  | cons head rest ih => exact ih (input.push head.1 head.2)

/-- The name of the type of documents tells the collection. -/
theorem documentType_name (identifier : String) (fields : List DocumentField) :
    (documentType identifier fields).name = documentName identifier := by
  simp only [documentType, ObjectType.push, ObjectType.name_pushAll]
  rfl

variable {identifier : String} {fields : List DocumentField}

/-- A type of a collection with the given fields, and the role that it has. -/
inductive HasRole (identifier : String) (fields : List DocumentField) : TypeRole → TypeDef → Prop
  | document : HasRole identifier fields .document (.object (documentType identifier fields))
  | filter : HasRole identifier fields .filter (.input (filterTypes identifier fields).root)
  | clause (combining : Clause) :
      HasRole identifier fields (.clause combining) (.input (clauseType identifier fields combining))
  | term {field : DocumentField} (retained : field ∈ fields) :
      HasRole identifier fields (.term field.identifier) (.input (termType identifier field))
  | range {field : DocumentField} (retained : field ∈ fields) :
      HasRole identifier fields (.range field.identifier) (.input (rangeType identifier field))
  | aggregations :
      HasRole identifier fields .aggregations (.object (aggregationTypes identifier fields).root)
  | kind (computing : AggregationKind) :
      HasRole identifier fields (.kind computing) (.object (kindType identifier fields computing))

/-- Types are named after their roles. -/
theorem HasRole.name_eq {role : TypeRole} {type : TypeDef}
    (has : HasRole identifier fields role type) : type.name = identifier ++ role.ending := by
  cases has with
  | document => exact documentType_name identifier fields
  | filter => exact name_pushAll_input _ _
  | clause combining =>
      rw [TypeDef.name, clauseType, name_pushAll_input]
      simp only [InputType.of, clauseName, filterName, TypeRole.ending, String.append_assoc]
      rfl
  | term retained =>
      simp only [TypeDef.name, termType, InputType.of, InputType.push, termName, TypeRole.ending,
        String.append_assoc]
  | range retained =>
      rw [TypeDef.name, rangeType, name_pushAll_input]
      simp only [InputType.of, rangeName, TypeRole.ending, String.append_assoc]
  | aggregations => exact ObjectType.name_pushAll _ _
  | kind computing =>
      rw [TypeDef.name, kindType, ObjectType.name_pushAll]
      simp only [ObjectType.of, kindName, TypeRole.ending, String.append_assoc]

/-- Every type behind a filter argument has a role. -/
theorem exists_hasRole_of_mem_filterTypes {type : InputType}
    (member : type ∈ (filterTypes identifier fields).all) :
    ∃ role, HasRole identifier fields role (.input type) := by
  simp only [FilterTypes.all, filterTypes, List.mem_cons, List.mem_append, List.mem_map,
    List.mem_flatMap, List.not_mem_nil, or_false] at member
  rcases member with rfl | ⟨combining, _, rfl⟩ | ⟨field, retained, rfl | rfl⟩
  · exact ⟨_, .filter⟩
  · exact ⟨_, .clause combining⟩
  · exact ⟨_, .term retained⟩
  · exact ⟨_, .range retained⟩

/-- Every type behind aggregations has a role. -/
theorem exists_hasRole_of_mem_aggregationTypes {type : ObjectType}
    (member : type ∈ (aggregationTypes identifier fields).all) :
    ∃ role, HasRole identifier fields role (.object type) ∧
      (role = .aggregations ∨ ∃ computing, role = .kind computing) := by
  simp only [AggregationTypes.all, aggregationTypes, List.mem_cons, List.mem_map] at member
  rcases member with rfl | ⟨computing, _, rfl⟩
  · exact ⟨_, .aggregations, .inl rfl⟩
  · exact ⟨_, .kind computing, .inr ⟨computing, rfl⟩⟩

/-- How the names of types behind filter arguments end. -/
def inputEndings : List String :=
  "_term_level_args" :: "_range_args" :: "_boolean_args" ::
    Clause.all.map fun combining => "_boolean_args_" ++ combining.name

/-- Every type behind a filter argument has one of their endings. -/
theorem ending_of_mem_filterTypes {type : InputType}
    (member : type ∈ (filterTypes identifier fields).all) :
    ∃ front, ∃ ending ∈ inputEndings, type.name = front ++ ending := by
  obtain ⟨role, has⟩ := exists_hasRole_of_mem_filterTypes member
  have named : type.name = identifier ++ role.ending := has.name_eq
  cases has with
  | filter => exact ⟨identifier, "_boolean_args", by decide, named⟩
  | clause combining =>
      exact ⟨identifier, "_boolean_args_" ++ combining.name, by cases combining <;> decide, named⟩
  | term _ =>
      rw [TypeRole.ending, ← String.append_assoc] at named
      exact ⟨_, "_term_level_args", by decide, named⟩
  | range _ =>
      rw [TypeRole.ending, ← String.append_assoc] at named
      exact ⟨_, "_range_args", by decide, named⟩

/-- No type behind a filter argument has an ending apart from theirs. -/
theorem input_name_ne_append {type : InputType}
    (member : type ∈ (filterTypes identifier fields).all)
    (other : String) {ending : String}
    (apart : ∀ inputEnding ∈ inputEndings,
      ¬(inputEnding.toList <:+ ending.toList ∨ ending.toList <:+ inputEnding.toList)) :
    type.name ≠ other ++ ending := by
  obtain ⟨front, inputEnding, listed, named⟩ := ending_of_mem_filterTypes member
  intro same
  exact apart inputEnding listed (endings_of_append_eq (named.symm.trans same))

/-- No type behind a filter argument has the ending of documents. -/
theorem input_name_ne_documentName {type : InputType}
    (member : type ∈ (filterTypes identifier fields).all) (other : String) :
    type.name ≠ documentName other :=
  input_name_ne_append member other (by decide)

/-- No type behind a filter argument has the name of the shared type. -/
theorem input_name_ne_pairName {type : InputType}
    (member : type ∈ (filterTypes identifier fields).all) :
    type.name ≠ pairName := by
  rw [← String.empty_append (s := pairName)]
  exact input_name_ne_append member "" (by decide)

/-- A type behind aggregations that has the ending of documents has it behind a
longer name than that of the collection. -/
theorem aggregation_name_eq_documentName {other : String} {type : ObjectType}
    (member : type ∈ (aggregationTypes identifier fields).all)
    (same : type.name = documentName other) : ∃ more, more ≠ "" ∧ other = identifier ++ more := by
  have cancel : ∀ front : String, identifier ++ (front ++ "_document") = documentName other →
      other = identifier ++ front := by
    intro front equal
    rw [documentName, ← String.append_assoc, String.append_left_inj] at equal
    exact equal.symm
  obtain ⟨role, has, aggregating⟩ := exists_hasRole_of_mem_aggregationTypes member
  have named : type.name = identifier ++ role.ending := has.name_eq
  rcases aggregating with rfl | ⟨computing, rfl⟩
  · rw [named] at same
    exact ⟨"_aggregation", by decide, cancel "_aggregation" same⟩
  · rw [named] at same
    refine ⟨"_" ++ computing.name ++ "_aggregation", ?_, cancel _ ?_⟩
    · cases computing <;> decide
    · cases computing <;> exact same

/-- The shared type has not the ending of documents. -/
theorem pairName_ne_documentName (other : String) : pairName ≠ documentName other := by
  intro same
  rw [← String.empty_append (s := pairName)] at same
  exact absurd (endings_of_append_eq same) (by decide)

/-- Every type behind aggregations has the ending of documents. -/
theorem exists_documentName_of_mem_aggregationTypes {type : ObjectType}
    (member : type ∈ (aggregationTypes identifier fields).all) :
    ∃ other, type.name = documentName other := by
  obtain ⟨role, has, aggregating⟩ := exists_hasRole_of_mem_aggregationTypes member
  have named : type.name = identifier ++ role.ending := has.name_eq
  rcases aggregating with rfl | ⟨computing, rfl⟩
  · refine ⟨identifier ++ "_aggregation", ?_⟩
    rw [named, documentName, String.append_assoc]
    rfl
  · refine ⟨identifier ++ ("_" ++ computing.name ++ "_aggregation"), ?_⟩
    rw [named, documentName, String.append_assoc]
    cases computing <;> rfl

/-- All endings start with an underscore. -/
theorem TypeRole.underscore_mem_ending (role : TypeRole) : '_' ∈ role.ending.toList := by
  cases role <;> simp [ending]

end DocQuery.Compile
