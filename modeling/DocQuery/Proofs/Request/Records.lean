import DocQuery.Proofs.Schema.DocumentFields
import DocQuery.Request.Projection
import DocQuery.Request.Record

/-!
# What records show

A record passes through the names four times: the selection is turned into store
names, the store reduces the document to them, and what is left gets its
identifiers back, dates in one form. A record has nothing that is not selected
(`Record.Confined`), whatever identifiers collide. `Record.Shows` says what comes out, in
terms of the document alone; `shows_ofDocument` proves it where no identifiers collide.
-/

namespace DocQuery

/-- What a field of a document looks like in a record: as it is stored, or as the
text of the date that is stored. -/
def DocumentField.shown? (field : DocumentField) (source : Fields) : Option Json :=
  (source.find? field.storeName).bind fun value =>
    if field.scalar = .dateTime ∨ field.storeName = Record.timestampField then
      (Instant.ofJson? value).map fun instant => .string instant.text
    else some value

namespace Projection

/-- The store is asked for exactly the store names behind the selected names of fields. -/
theorem admits_source_iff {registry : Registry} {selection : SelectionSet} {storeName : String} :
    (ofSelection registry selection).source.admits storeName = true ↔
      ∃ name ∈ selection.names, isFieldName name = true ∧ registry.storeName name = storeName := by
  have listed : storeName ∈ (ofSelection registry selection).fields ↔
      ∃ name ∈ selection.names, isFieldName name = true ∧
        registry.storeName name = storeName := by
    simp only [ofSelection, List.mem_eraseDups, List.mem_map, List.mem_filter, and_assoc]
  rw [← listed, source, SourceFilter.ofFields]
  split
  · rename_i nothing
    simp [SourceFilter.admits, List.isEmpty_iff.mp nothing]
  · simp [SourceFilter.admits]

/-- The id is wanted exactly if it is selected. -/
theorem includesId_iff {registry : Registry} {selection : SelectionSet} :
    (ofSelection registry selection).includesId = true ↔ idName ∈ selection.names := by
  simp [ofSelection]

end Projection

/-- A hit has only fields that a source filter admits. -/
def Hit.Within (hit : Hit) (filter : SourceFilter) : Prop :=
  ∀ storeName ∈ hit.source.keys, filter.admits storeName = true

instance (hit : Hit) (filter : SourceFilter) : Decidable (hit.Within filter) :=
  inferInstanceAs (Decidable (∀ storeName ∈ hit.source.keys, filter.admits storeName = true))

/-- What a source filter leaves of a document is admitted by it. -/
theorem Hit.within_apply (id : String) (source : Fields) (filter : SourceFilter) :
    Hit.Within ⟨id, filter.apply source⟩ filter := by
  intro storeName member
  obtain ⟨⟨_, value⟩, kept, rfl⟩ := List.mem_map.mp member
  exact (List.mem_filter.mp kept).2

namespace Record

variable {registry : Registry} {target : Target} {includesId : Bool} {hit : Hit}

/-- A record has a value for a selected field exactly where the document shows one,
for the id exactly if it is selected, and for nothing that is not selected. -/
structure Shows (fields : List DocumentField) (selection : SelectionSet)
    (document : String × Fields) (record : Fields) : Prop where
  field : ∀ identifier field, Compile.fieldNamed? fields identifier = some field →
    identifier ≠ Projection.idName → identifier ∈ selection.names →
      record.find? identifier = field.shown? document.2
  id : record.find? Projection.idName =
    if Projection.idName ∈ selection.names then some (.string document.1) else none
  selected : ∀ key ∈ record.keys, key ∈ selection.names

/-- The fields of a record before the id are the converted fields of the document. -/
theorem find?_fields (key : String) :
    (fields registry target includesId hit).find? key =
      if includesId = true ∧ key = Projection.idName then some (.string hit.id)
      else Entries.findLast? key
        (Entries.convert registry.toIdentifier? (value? target) hit.source.entries) := by
  let converted := OrderedMap.ofList
    (Entries.convert registry.toIdentifier? (value? target) hit.source.entries)
  have found : converted.find? key = Entries.findLast? key
      (Entries.convert registry.toIdentifier? (value? target) hit.source.entries) :=
    OrderedMap.find?_ofList _ _
  cases includesId with
  | false =>
      show converted.find? key = _
      simpa using found
  | true =>
      show (converted.insert Projection.idName (.string hit.id)).find? key = _
      rw [OrderedMap.find?_insert, found]
      by_cases same : Projection.idName = key
      · simp [same]
      · have differ : key ≠ Projection.idName := fun equal => same equal.symm
        simp [same, differ]

/-- A key of a record is the id or the identifier of a field of the document. -/
theorem mem_keys_fields {key : String}
    (member : key ∈ (fields registry target includesId hit).keys) :
    (includesId = true ∧ key = Projection.idName) ∨
      ∃ storeName ∈ hit.source.keys, registry.toIdentifier? storeName = some key := by
  rw [← OrderedMap.find?_isSome_iff, find?_fields] at member
  split at member
  · rename_i isId
    exact .inl isId
  · obtain ⟨value, found⟩ := Option.isSome_iff_exists.mp member
    obtain ⟨⟨storeName, stored⟩, held, bound⟩ :=
      List.mem_filterMap.mp (Entries.mem_of_findLast? found)
    simp only [Option.bind_eq_some_iff, Option.some.injEq, Prod.mk.injEq] at bound
    obtain ⟨identifier, known, _, _, rfl, _⟩ := bound
    exact .inr ⟨storeName, List.mem_map.mpr ⟨_, held, rfl⟩, known⟩

/-- A record has only keys that are selected, and under the key of the id nothing but the id
of the hit. -/
structure Confined (selection : SelectionSet) (hit : Hit) (record : Fields) : Prop where
  selected : ∀ key ∈ record.keys, key ∈ selection.names
  id : record.find? Projection.idName =
    if Projection.idName ∈ selection.names then some (.string hit.id) else none

/-- Whatever has been registered, the record of a hit is confined to the selection, if the
hit is within the source filter of the selection. -/
theorem confined_fields {selection : SelectionSet} {names : List String}
    (registered : registry = Registry.empty.registerAll names)
    (identifiers : ∀ name ∈ selection.names, Names.IsIdentifier name)
    (within : hit.Within (Projection.ofSelection registry selection).source) :
    Confined selection hit
      (fields registry target (Projection.ofSelection registry selection).includesId hit) := by
  have selected : ∀ key ∈ (fields registry target
      (Projection.ofSelection registry selection).includesId hit).keys,
        key ∈ selection.names := by
    intro key member
    rcases mem_keys_fields member with ⟨wanted, rfl⟩ | ⟨storeName, held, known⟩
    · exact Projection.includesId_iff.mp wanted
    · obtain ⟨name, listed, _, rfl⟩ := Projection.admits_source_iff.mp (within storeName held)
      subst registered
      exact Registry.identifier_of_storeName (identifiers name listed) known ▸ listed
  refine ⟨selected, ?_⟩
  -- Unless the id is selected, no field of the hit may take its place.
  by_cases wanted : Projection.idName ∈ selection.names
  · rw [find?_fields, if_pos ⟨Projection.includesId_iff.mpr wanted, rfl⟩, if_pos wanted]
  · rw [if_neg wanted, ← Option.not_isSome_iff_eq_none, OrderedMap.find?_isSome_iff]
    exact fun present => wanted (selected _ present)

/-- The record of what the store returns of a document. -/
def ofDocument (registry : Registry) (target : Target) (selection : SelectionSet)
    (document : String × Fields) : Fields :=
  let projection := Projection.ofSelection registry selection
  fields registry target projection.includesId ⟨document.1, projection.source.apply document.2⟩

section Faithful

variable {config : Config} {metadata : Fields} {contribution : Compile.Contribution}
  {selection : SelectionSet}
  (registered : registry = Registry.empty.registerAll
    (Compile.registrations (Compile.contributions config metadata)))
  (free : registry.CollisionFree)
  (contributed : contribution ∈ Compile.contributions config metadata)
  (selected : ∀ name ∈ selection.names, Projection.isMeta name = false ∧
    (name = Projection.idName ∨
      ∃ field, Compile.fieldNamed? contribution.fields name = some field))

include registered free contributed selected

/-- Without collisions the record of a document shows the document. -/
theorem shows_ofDocument (document : String × Fields) :
    Shows contribution.fields selection document
      (ofDocument registry contribution.target selection document) := by
  have identifiers : ∀ name ∈ selection.names, Names.IsIdentifier name := by
    intro name member
    rcases (selected name member).2 with rfl | ⟨field, found⟩
    · decide
    · obtain ⟨retained, rfl⟩ := Compile.mem_of_fieldNamed? found
      rw [(Compile.identifiers_of_contribution contributed).2 field retained]
      exact Names.isIdentifier_normalize field.storeName
  have confined : Confined selection ⟨document.1, _⟩
      (ofDocument registry contribution.target selection document) :=
    confined_fields registered identifiers (Hit.within_apply _ _ _)
  subst registered
  refine ⟨?field, confined.id, confined.selected⟩
  case field =>
    intro identifier field found notId member
    obtain ⟨retained, named⟩ := Compile.mem_of_fieldNamed? found
    subst named
    have admitted := Projection.admits_source_iff.mpr ⟨field.identifier, member,
      by simp [Projection.isFieldName, notId, (selected _ member).1],
      Compile.storeName_identifier free contributed retained⟩
    rw [ofDocument, find?_fields, if_neg fun isId => notId isId.2, Entries.findLast?_convert
      (OrderedMap.distinct _) (Compile.toIdentifier?_eq_identifier_iff free contributed retained)]
    show (OrderedMap.find? (SourceFilter.apply _ document.2) field.storeName).bind _ = _
    rw [SourceFilter.apply, OrderedMap.find?_filter_keys, if_pos admitted, DocumentField.shown?]
    congr 1
    funext value
    simp only [value?, isDate, Compile.holdsDates_target contributed found, Bool.or_eq_true,
      beq_iff_eq, or_comm]

end Faithful

end Record

end DocQuery
