import DocQuery.Proofs.Request.Requested
import DocQuery.Proofs.Session.Opened

/-!
# Aggregating in one search

Everything that is selected of the aggregations of a collection is computed in one
search. `Session.aggregations_merge_single_requests` says that nothing is lost or
mixed up by that: under every kind the result has for every field what a request for
this kind and this field alone has.

Entries of the search have different names for different kinds and fields. So what
is read for a kind and a field depends on the two and on the selected documents,
but not on what else is computed.
-/

namespace DocQuery

/-- What a collection yields for a kind and a field over the documents that a query
selects, in the type that the schema promises. -/
def Collection.aggregate? (collection : Collection) (query : Query) (kind : AggregationKind)
    (field : DocumentField) : Option Json :=
  match Metric.compute kind ((collection.selected query).filterMap fun document =>
      document.2.find? field.storeName) with
  | .object entry => Aggregation.value? kind field.scalar entry
  | _ => none

/-- What a search computes for a kind and a field does not depend on its other entries. -/
theorem Aggregation.value?_outcome_search {collection : Collection} {search : Search}
    {kind : AggregationKind} {field : DocumentField} {requested : Requested}
    (asked : search.aggregations = requested.entries)
    (member : Aggregation.of kind field.storeName ∈ requested.entries) :
    (Aggregation.outcome (collection.search search).aggregations kind field).value? =
      collection.aggregate? search.query kind field := by
  have only : ∀ other ∈ requested.entries,
      other.name = (Aggregation.of kind field.storeName).name →
        other = Aggregation.of kind field.storeName := by
    intro other listed same
    obtain ⟨⟨otherKind, fields⟩, _, below⟩ := List.mem_flatMap.mp listed
    obtain ⟨otherField, _, rfl⟩ := List.mem_map.mp below
    obtain ⟨rfl, sameField⟩ := Aggregation.of_name_inj.mp same
    rw [sameField]
  have found : (collection.search search).aggregations.find?
      (Aggregation.of kind field.storeName).name =
        some (Metric.compute kind ((collection.selected search.query).filterMap fun document =>
          document.2.find? field.storeName)) := by
    rw [Collection.search, asked]
    exact (OrderedMap.find?_ofList _ _).trans (Entries.findLast?_map member only)
  rw [Aggregation.outcome, found, Collection.aggregate?]
  cases Metric.compute kind ((collection.selected search.query).filterMap fun document =>
      document.2.find? field.storeName) with
  | object entry =>
      simp only
      cases Aggregation.value? kind field.scalar entry <;> rfl
  | _ => rfl

/-- The store answers for every selected kind and every field below it, or is not
asked at all if there is none. -/
theorem Resolver.answer_aggregations {registry : Registry} {memory : Memory} {target : Target}
    {arguments : Fields} {selection : SelectionSet} {collection : Collection}
    {filter : Option Filter}
    (named : ∀ name field, target.field? name = some field →
      field.identifier = name ∧ Names.normalize field.storeName = name)
    (stored : memory.collections.find? target.storeName = some collection)
    (filterRead : Arguments.filter arguments = .ok filter) :
    Resolver.answer ⟨.aggregations, target⟩ registry memory arguments selection =
      .ok (.object (selection.kinds.map fun kind => (kind.name, .object (Entries.keyed
        (((selection.namesUnder kind).filter fun name => (target.field? name).isSome).eraseDups)
        fun name => (target.field? name).bind
          (collection.aggregate? (Filter.toQuery registry filter) kind))))) := by
  rw [Resolver.answer, Resolver.plan_aggregations filterRead]
  split
  · -- The store is not asked; the empty results are what reading any results would give.
    rename_i nothing
    have unasked := List.isEmpty_iff.mp nothing
    refine congrArg Except.ok (Requested.read_ofSelection named ?_)
    intro kind field member
    have entry := Requested.of_mem_entries_iff.mpr ⟨field, member, rfl⟩
    rw [unasked] at entry
    cases entry
  · show Except.mapError _ (memory.answer _ >>= _) = _
    simp only [Memory.answer, Memory.collection, stored]
    refine congrArg Except.ok (Requested.read_ofSelection named ?_)
    intro kind field member
    exact Aggregation.value?_outcome_search rfl
      (Requested.of_mem_entries_iff.mpr ⟨field, member, rfl⟩)

/-- The request with a single name under a kind in place of its selection. -/
def Request.aggregating (request : Request) (kind : AggregationKind) (name : String) : Request :=
  { request with selection := .single kind name }

/-- What the value of a root field has below a kind for a name. -/
def Outcome.aggregate? (kind : AggregationKind) (name : String) : Outcome → Option Json
  | .value (.ok found) => (found.get? kind.name).bind (Json.get? name)
  | _ => none

/-- In a value with a single kind and a single name the value of that name is found. -/
theorem Outcome.aggregate?_single (kind : AggregationKind) (name : String)
    (value? : String → Option Json) :
    aggregate? kind name
        (.value (.ok (.object [(kind.name, .object (Entries.keyed [name] value?))]))) =
      value? name := by
  cases found : value? name with
  | none => simp [aggregate?, Json.get?, Entries.find?, Entries.keyed, found]
  | some value => simp [aggregate?, Json.get?, Entries.find?, Entries.keyed, found]

namespace Session

/-- Over a store in memory, the aggregations of a collection have an entry for every
selected kind, and there one for every selected field of the collection, first
occurrences in order. A field has there what the same request for this kind and this
field alone has, which always succeeds. -/
theorem aggregations_merge_single_requests {config : Config} {registry : Registry}
    {memory : Memory} {given : Option Fields} {timeout : Option Nat} {session : Session}
    {trace : Trace} (change : Memory → Memory) {name : String} {description : Json}
    {mapping : CollectionMapping} {collection : Collection} (request : Request)
    {target : Target} {filter : Option Filter}
    (started : start config registry ⟨memory, []⟩ given timeout = (.ok session, trace))
    (described :
      (given.getD (memory.getMappings config.includePattern)).find? name = some description)
    (usable : CollectionMapping.ofMetadata name description = .ok mapping)
    (stored : (change memory).collections.find? name = some collection)
    (own : session.schema.resolver request.field = .ok ⟨.aggregations, target⟩)
    (acts : target.storeName = name)
    (filterRead : Arguments.filter request.arguments = .ok filter) :
    let resolved := fun request : Request =>
      ((session.changeMemory change).step (.resolve request)).yielded
    let identifiers := (Compile.retainedFields config mapping).map DocumentField.identifier
    resolved request = .value (.ok (.object (request.selection.kinds.map fun kind =>
        (kind.name, .object (Entries.keyed
          ((request.selection.namesUnder kind).filter (· ∈ identifiers)).eraseDups
          fun field => (resolved (request.aggregating kind field)).aggregate? kind field))))) ∧
      ∀ kind, ∀ field ∈ identifiers, ∃ value : Option Json,
        resolved (request.aggregating kind field) = .value (.ok (.object
          [(kind.name, .object (value.toList.map fun value => (field, value)))])) := by
  intro resolved identifiers
  have opened := opened_of_start started
  have contributed := Compile.contribute_mem_contributions config described usable
  obtain rfl := Compile.target_of_resolver (.refl _) opened.assembled own contributed acts
  let computed? := fun kind field =>
    ((Compile.contribute config name mapping).target.field? field).bind
      (collection.aggregate? (Filter.toQuery session.registry filter) kind)
  have isField : (fun field =>
      ((Compile.contribute config name mapping).target.field? field).isSome) =
        fun field => decide (field ∈ identifiers) := by
    funext field
    rw [Bool.eq_iff_iff, decide_eq_true_eq]
    exact Compile.isSome_field?_target_iff
  have answered : ∀ selection, resolved { request with selection } =
      .value (.ok (.object (selection.kinds.map fun kind => (kind.name, .object (Entries.keyed
        ((selection.namesUnder kind).filter (· ∈ identifiers)).eraseDups (computed? kind)))))) := by
    intro selection
    have found : (session.changeMemory change).schema.resolver
        ({ request with selection } : Request).field = .ok ⟨.aggregations, _⟩ := own
    show ((session.changeMemory change).step (.resolve { request with selection })).yielded = _
    rw [step_resolve (opened.changeMemory change).unscripted found, Resolver.answer_aggregations
      (Compile.identifier_of_field?_target contributed) stored filterRead, isField]
    rfl
  have single : ∀ kind, ∀ field ∈ identifiers, resolved (request.aggregating kind field) =
      .value (.ok (.object [(kind.name, .object (Entries.keyed [field] (computed? kind)))])) := by
    intro kind field member
    have kept : [field].filter (· ∈ identifiers) = [field] := by simp [member]
    rw [Request.aggregating, answered, SelectionSet.kinds_single, List.map_singleton,
      SelectionSet.namesUnder_single, kept]
    rfl
  refine ⟨?_, ?_⟩
  · refine (answered request.selection).trans ?_
    congr 4
    funext kind
    congr 2
    apply Entries.keyed_congr
    intro field member
    have listed := (List.mem_filter.mp (List.mem_eraseDups.mp member)).2
    rw [single kind field (of_decide_eq_true listed), Outcome.aggregate?_single]
  · intro kind field member
    refine ⟨computed? kind field, ?_⟩
    rw [single kind field member]
    cases bound : computed? kind field with
    | none => simp [Entries.keyed, bound]
    | some value => simp [Entries.keyed, bound]

/-- Readings are aggregated over with a kind selected twice, a field selected twice,
and names that are neither. -/
theorem aggregations_of_readings_merge :
    let request : Request :=
      { field := "es_index_aggregations"
        arguments := .empty
        selection := [⟨"max", [.leaf "count", .leaf "location"]⟩, ⟨"median", [.leaf "count"]⟩,
          ⟨"min", [.leaf "plus_X_Temperature"]⟩, ⟨"max", [.leaf "timestamp", .leaf "count"]⟩]
        timeout := none }
    ∃ session trace,
      start {} .empty ⟨.readings, []⟩ none none = (.ok session, trace) ∧
        let resolved := fun request : Request => (session.step (.resolve request)).yielded
        resolved request = .value (.ok (.object
          [("max", .object (Entries.keyed ["count", "timestamp"] fun field =>
              (resolved (request.aggregating .max field)).aggregate? .max field)),
            ("min", .object (Entries.keyed ["plus_X_Temperature"] fun field =>
              (resolved (request.aggregating .min field)).aggregate? .min field))])) := by
  intro request
  obtain ⟨description, described, usable⟩ := Memory.exists_description_of_readings
  obtain ⟨session, trace, started⟩ : ∃ session trace,
      start {} .empty ⟨.readings, []⟩ none none = (.ok session, trace) :=
    exists_start described usable
  have opened := opened_of_start started
  have contributed := Compile.contribute_mem_contributions {} described usable
  let own := Compile.aggregationsField
    (Compile.contribute {} "es-index" Memory.readingsMapping).target
  have sole : ∀ other ∈ Compile.contributions {} (Memory.readings.getMappings "*"),
      ∀ field ∈ other.rootFields, field.name = own.name → field = own := by decide
  have found : session.schema.field? "es_index_aggregations" = some own :=
    Compile.field?_of_sole_name opened.assembled contributed (by decide) sole
  have resolved : session.schema.resolver "es_index_aggregations" =
      .ok ⟨.aggregations, (Compile.contribute {} "es-index" Memory.readingsMapping).target⟩ := by
    rw [Schema.resolver, found]
    rfl
  have unchanged : session.changeMemory id = session := rfl
  have merged := (aggregations_merge_single_requests id request started described usable rfl
    resolved rfl rfl).1
  have kinds : request.selection.kinds = [.max, .min] := by decide
  let identifiers := (Compile.retainedFields {} Memory.readingsMapping).map DocumentField.identifier
  have underMax : ((request.selection.namesUnder .max).filter (· ∈ identifiers)).eraseDups =
      ["count", "timestamp"] := by decide
  have underMin : ((request.selection.namesUnder .min).filter (· ∈ identifiers)).eraseDups =
      ["plus_X_Temperature"] := by decide
  rw [unchanged, kinds, List.map_cons, List.map_singleton, underMax, underMin] at merged
  exact ⟨session, trace, started, merged⟩

end Session

end DocQuery
