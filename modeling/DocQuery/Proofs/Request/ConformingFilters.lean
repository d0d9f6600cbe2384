import DocQuery.Proofs.Request.FilterReading
import DocQuery.Proofs.Schema.FilterInputs
import DocQuery.Store.Sample

/-!
# Filters that the schema admits

The schema describes filters by input types, and the reader takes them apart by names of
its own. `conforming_filters_are_read` says that the two agree: what conforms to the type of
a filter argument is read without a fault, and every bound in it becomes a bound of the
native query, under its clause and with its operator. This holds of every schema that is
built, also where collections take types from each other.
-/

namespace DocQuery

section Built

variable {config : Config} {compiled : List Compile.Contribution} {schema : Schema}
  (generated : ∀ contribution ∈ compiled, ∃ storeName mapping,
    contribution = Compile.contribute config storeName mapping)
  (assembled : Compile.assemble compiled = .ok schema)

include generated assembled

/-- What conforms to a type of a level is `null`, or an object with members that conform to
what the level declares. -/
theorem Schema.Conforms.isObjectOf {front : String} {level : FilterLevel} {value : Json}
    {allowed : String → Json → Prop}
    (conforms : schema.Conforms (.named (front ++ level.ending)) value) (present : value ≠ .null)
    (allows : ∀ argument member, level.Declares argument → schema.Conforms argument.type member →
      member ≠ .null → allowed argument.name member) :
    value.IsObjectOf allowed := by
  cases conforms with
  | null => exact absurd rfl present
  | input found distinct declared conform =>
      refine ⟨_, rfl, distinct, ?_⟩
      intro entry member
      rw [or_iff_not_imp_left]
      intro present
      obtain ⟨argument, known⟩ := Option.isSome_iff_exists.mp (declared entry member)
      obtain ⟨named, declares⟩ := Compile.declares_of_input? generated assembled found known
      rw [← named]
      exact allows argument _ declares (conform entry member argument known) present

/-- What conforms to a type of bounds has scalar bounds by operator. -/
theorem Filter.isBounds_of_conforms {front : String} {value : Json}
    (conforms : schema.Conforms (.named (front ++ FilterLevel.bounds.ending)) value)
    (present : value ≠ .null) : Filter.IsBounds value := by
  refine conforms.isObjectOf generated assembled present ?_
  rintro ⟨_, _⟩ member ⟨op, leaf, rfl, rfl⟩ scalar present
  refine ⟨⟨op, rfl⟩, ?_⟩
  cases scalar with
  | null => exact absurd rfl present
  | scalar written => exact written

/-- What conforms to a type of conditions has a range at most. -/
theorem Filter.isCondition_of_conforms {front : String} {value : Json}
    (conforms : schema.Conforms (.named (front ++ FilterLevel.condition.ending)) value)
    (present : value ≠ .null) : Filter.IsCondition value := by
  refine conforms.isObjectOf generated assembled present ?_
  rintro ⟨_, _⟩ member ⟨rfl, front, rfl⟩ bounded present
  exact ⟨rfl, isBounds_of_conforms generated assembled bounded present⟩

/-- What conforms to a type of a clause has conditions by field. -/
theorem Filter.isConditions_of_conforms {front : String} {clause : Clause} {value : Json}
    (conforms : schema.Conforms (.named (front ++ (FilterLevel.clause clause).ending)) value)
    (present : value ≠ .null) : Filter.IsConditions value := by
  refine conforms.isObjectOf generated assembled present ?_
  rintro ⟨_, _⟩ member ⟨front, rfl⟩ conditional present
  exact isCondition_of_conforms generated assembled conditional present

/-- What conforms to the type of a filter argument has conditions by clause and by field. -/
theorem Filter.isFilter_of_conforms {front : String} {value : Json}
    (conforms : schema.Conforms (.named (front ++ FilterLevel.filter.ending)) value)
    (present : value ≠ .null) : Filter.IsFilter value := by
  refine conforms.isObjectOf generated assembled present ?_
  rintro ⟨_, _⟩ member ⟨clause, front, rfl, rfl⟩ conditional present
  exact ⟨⟨clause, rfl⟩, isConditions_of_conforms generated assembled conditional present⟩

end Built

/-- The filter argument of a collection has the type named after the collection. -/
theorem Compile.type_of_filterArgument {config : Config} {storeName : String}
    {mapping : CollectionMapping} {field : Field}
    (own : field ∈ (contribute config storeName mapping).rootFields) {argument : Argument}
    (filtered : field.arguments.find? "boolean_query" = some argument) :
    argument.type = .named (filterName (contribute config storeName mapping).identifier) := by
  rcases mem_rootFields_iff.mp own with rfl | rfl | ⟨_, _, rfl⟩
  · cases inhabited : !(retainedFields config mapping).isEmpty with
    | false =>
        rw [inhabited] at filtered
        cases filtered
    | true =>
        rw [inhabited] at filtered
        cases filtered
        rfl
  · cases filtered
  · cases filtered
    rfl

/-- A value that conforms to the type of the filter argument of a collection, as the schema
has it, is read without a fault. The native query has, under every clause, one range for
each name with a bound there, on the store field that the name stands for; the bounds are
those that are written, with their operators, and there are no others. It does not matter
in which order the collections were compiled, nor which names are registered. -/
theorem conforming_filters_are_read {config : Config} {metadata : Fields} {schema : Schema}
    {compiled : List Compile.Contribution} {collection : Compile.Contribution} {field : Field}
    {argument : Argument} {value : Json} (registry : Registry)
    (order : compiled.Perm (Compile.contributions config metadata))
    (assembled : Compile.assemble compiled = .ok schema)
    (contributed : collection ∈ compiled) (own : field ∈ collection.rootFields)
    (filtered : field.arguments.find? "boolean_query" = some argument)
    (conforms : schema.Conforms argument.type value) :
    argument.type = .named (Compile.filterName collection.identifier) ∧
    ∃ (filter : Option Filter) (clauses : Clauses), Filter.read (some value) = .ok filter ∧
      Filter.toQuery registry filter = .bool clauses ∧ clauses.Tight ∧
      ∀ clause : Clause, ∃ terms : List FilterTerm,
        clauses.under clause = terms.map (fun term => .range (term.range registry)) ∧
        (terms.map FilterTerm.name).Nodup ∧
        ∀ (name : String) (op : RangeOp) (bound : Json),
          (∃ term ∈ terms, term.name = name ∧ term.bounds.find? op = some bound) ↔
            value.givenAt? [clause.name, name, "range", op.name] = some bound := by
  have generated : ∀ contribution ∈ compiled, ∃ storeName mapping,
      contribution = Compile.contribute config storeName mapping := by
    intro contribution member
    obtain ⟨name, _, mapping, _, _, same⟩ :=
      Compile.mem_contributions_iff.mp (order.mem_iff.mp member)
    exact ⟨name, mapping, same⟩
  have typed : argument.type = .named (Compile.filterName collection.identifier) := by
    obtain ⟨_, _, rfl⟩ := generated collection contributed
    exact Compile.type_of_filterArgument own filtered
  rw [typed] at conforms
  obtain ⟨filter, read, agrees⟩ : ∃ filter, Filter.read (some value) = .ok filter ∧
      ∀ clause name op, (filter.getD .empty).bound? clause name op =
        value.givenAt? [clause.name, name, "range", op.name] := by
    by_cases present : value = .null
    · subst present
      exact ⟨none, rfl, fun _ _ _ => rfl⟩
    · obtain ⟨filter, read, represented⟩ :=
        Filter.exists_read (Filter.isFilter_of_conforms generated assembled conforms present)
      exact ⟨some filter, read, Filter.bound?_of_represents represented⟩
  obtain ⟨clauses, translated⟩ : ∃ clauses : Clauses,
      Filter.toQuery registry filter = .bool clauses := ⟨_, rfl⟩
  refine ⟨typed, filter, clauses, read, translated, Filter.tight_of_toQuery translated, ?_⟩
  intro clause
  refine ⟨(filter.getD .empty).terms clause, ?_, Filter.nodup_names_terms _ clause, ?_⟩
  · exact Filter.under_toQuery registry _ translated clause
  · intro name op bound
    rw [Filter.exists_term_iff, agrees]

/-- Metadata of two collections that both have a type `a_b_c_range_args`. -/
def sharedRangeMetadata : Fields :=
  .ofList [("a", Memory.metadataOf [("b_c", "long")]), ("a_b", Memory.metadataOf [("c", "date")])]

/-- A filter for one collection conforms to types that come from another. Its only bound is
read, and members that are `null` are not. -/
theorem conforming_filter_of_shared_types_is_read :
    let value : Json := .object [("must", .object [("b_c", .object [("range",
      .object [("gte", .string "2024-01-01"), ("lt", .null)])])]), ("should", .null)]
    ∃ schema, Compile.assemble (Compile.contributions {} sharedRangeMetadata) = .ok schema ∧
      schema.Conforms (.named "a_boolean_args") value ∧
      ∃ (filter : Option Filter) (clauses : Clauses), Filter.read (some value) = .ok filter ∧
        Filter.toQuery .empty filter = .bool clauses ∧
        ∃ terms : List FilterTerm,
          clauses.under .must = terms.map (fun term => .range (term.range .empty)) ∧
          (∃ term ∈ terms, term.name = "b_c" ∧
            term.bounds.find? .gte = some (.string "2024-01-01")) ∧
          ¬ ∃ term ∈ terms, term.name = "b_c" ∧ ∃ bound, term.bounds.find? .lt = some bound := by
  intro value
  cases assembled : Compile.assemble (Compile.contributions {} sharedRangeMetadata) with
  | error error =>
      have nothing := (Compile.assemble_eq_error_iff.mp assembled).1
      rw [Compile.mergedFields_eq_nil_iff] at nothing
      cases nothing
  | ok schema =>
      have sorted : Compile.inOrder (Compile.contributions {} sharedRangeMetadata) =
          Compile.contributions {} sharedRangeMetadata := List.mergeSort_of_pairwise (by decide)
      have typed : ∀ name, schema.type? name = Entries.findLast? name
          ((Compile.mergedTypes (Compile.contributions {} sharedRangeMetadata)).map
            fun type => (type.name, type)) := by
        intro name
        rw [Compile.type?_of_assembled assembled, sorted]
      have input : ∀ {name type}, schema.type? name = some (.input type) →
          schema.input? name = some type := by
        intro name type found
        rw [Schema.input?, found]
      have bounds : schema.Conforms (.named "a_b_c_range_args")
          (.object [("gte", .string "2024-01-01"), ("lt", .null)]) :=
        .of_members (input (typed _)) (by decide) (List.forall_mem_cons.mpr
          ⟨⟨_, rfl, .scalar rfl⟩, List.forall_mem_singleton.mpr ⟨_, rfl, .null rfl⟩⟩)
      have condition : schema.Conforms (.named "a_b_c_term_level_args")
          (.object [("range", .object [("gte", .string "2024-01-01"), ("lt", .null)])]) :=
        .of_members (input (typed _)) (by decide) (List.forall_mem_singleton.mpr ⟨_, rfl, bounds⟩)
      have conditions : schema.Conforms (.named "a_boolean_args_must") (.object [("b_c",
          .object [("range", .object [("gte", .string "2024-01-01"), ("lt", .null)])])]) :=
        .of_members (input (typed _)) (by decide)
          (List.forall_mem_singleton.mpr ⟨_, rfl, condition⟩)
      have conforms : schema.Conforms (.named "a_boolean_args") value :=
        .of_members (input (typed _)) (by decide) (List.forall_mem_cons.mpr
          ⟨⟨_, rfl, conditions⟩, List.forall_mem_singleton.mpr ⟨_, rfl, .null rfl⟩⟩)
      have contributed : Compile.contribute {} "a" [("b_c", .leaf "long")] ∈
          Compile.contributions {} sharedRangeMetadata :=
        Compile.contribute_mem_contributions {} (rfl : sharedRangeMetadata.find? "a" = some _) rfl
      obtain ⟨_, filter, clauses, read, translated, _, under⟩ := conforming_filters_are_read .empty
        (.refl _) assembled contributed List.mem_cons_self rfl conforms
      obtain ⟨terms, ranged, _, bounded⟩ := under .must
      refine ⟨schema, rfl, conforms, filter, clauses, read, translated, terms, ranged,
        (bounded "b_c" .gte _).mpr rfl, ?_⟩
      rintro ⟨term, member, named, bound, found⟩
      cases (bounded "b_c" .lt bound).mp ⟨term, member, named, found⟩

end DocQuery
