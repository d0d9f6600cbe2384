import DocQuery.Proofs.Schema.DocumentFields
import DocQuery.Request.Aggregation
import Mathlib.Data.List.Induction

/-!
# What a selection of aggregations asks for

`ofSelection` reads a selection from front to back and collects the fields of a kind
wherever the kind occurs. `ofSelection_eq` says what has been collected at the end:
the kinds in the order in which they are first selected, and below each kind, one
after another, what its selections ask for.
-/

namespace DocQuery

namespace SelectionSet

/-- The kinds that are selected, each once, in the order in which they are first selected. -/
def kinds (selection : SelectionSet) : List AggregationKind :=
  (selection.filterMap fun selected => AggregationKind.ofName? selected.name).eraseDups

/-- What is selected below the selections of a kind, one after another. -/
def under (selection : SelectionSet) (kind : AggregationKind) : List SelectionSet :=
  (selection.filter fun selected => AggregationKind.ofName? selected.name = some kind).map
    Selection.children

/-- The names that are selected under a kind, one after another. -/
def namesUnder (selection : SelectionSet) (kind : AggregationKind) : List String :=
  (selection.under kind).flatMap names

/-- A further selection adds its kind, unless it has none or the kind is there. -/
theorem kinds_concat (front : SelectionSet) (last : Selection) :
    kinds (front ++ [last]) =
      match AggregationKind.ofName? last.name with
      | none => front.kinds
      | some kind => if kind ∈ front.kinds then front.kinds else front.kinds ++ [kind] := by
  rw [kinds, List.filterMap_append]
  cases named : AggregationKind.ofName? last.name with
  | none => simp [kinds, named]
  | some kind =>
      have single : [last].filterMap (fun selected => AggregationKind.ofName? selected.name) =
          [kind] := by simp [named]
      rw [single, FirstOccurrences.eraseDups_concat]
      simp only [kinds, List.mem_eraseDups]

/-- What is below a kind is below a selection of that kind. -/
theorem mem_under_iff {selection children : SelectionSet} {kind : AggregationKind} :
    children ∈ selection.under kind ↔
      ∃ selected ∈ selection, AggregationKind.ofName? selected.name = some kind ∧
        selected.children = children := by
  simp [under, and_assoc]

/-- A kind with something below it is selected. -/
theorem mem_kinds_of_under {selection children : SelectionSet} {kind : AggregationKind}
    (below : children ∈ selection.under kind) : kind ∈ selection.kinds := by
  obtain ⟨selected, listed, named, _⟩ := mem_under_iff.mp below
  exact List.mem_eraseDups.mpr (List.mem_filterMap.mpr ⟨selected, listed, named⟩)

/-- The selection of a single name under a kind. -/
def single (kind : AggregationKind) (name : String) : SelectionSet := [⟨kind.name, [.leaf name]⟩]

@[simp] theorem kinds_single (kind : AggregationKind) (name : String) :
    kinds (single kind name) = [kind] := by
  cases kind <;> rfl

@[simp] theorem namesUnder_single (kind : AggregationKind) (name : String) :
    namesUnder (single kind name) kind = [name] := by
  cases kind <;> rfl

/-- A further selection adds what is below it, under its own kind only. -/
theorem under_concat (front : SelectionSet) (last : Selection) (kind : AggregationKind) :
    under (front ++ [last]) kind =
      front.under kind ++
        if AggregationKind.ofName? last.name = some kind then [last.children] else [] := by
  rw [under, List.filter_append, List.map_append]
  split
  · rename_i named
    simp [under, named]
  · rename_i named
    simp [under, named]

end SelectionSet

namespace Requested

variable {target : Target}

/-- The fields that the selections of a kind ask for, one after another. -/
def fieldsUnder (target : Target) (selection : SelectionSet) (kind : AggregationKind) :
    List DocumentField :=
  (selection.under kind).flatMap (fieldsOf target)

/-- A selection is read from front to back. -/
theorem ofSelection_concat (target : Target) (front : SelectionSet) (last : Selection) :
    ofSelection target (front ++ [last]) = add target (ofSelection target front) last := by
  rw [ofSelection, List.foldl_append]
  rfl

/-- Kinds are collected in the order in which they are first selected. -/
theorem keys_ofSelection (target : Target) (selection : SelectionSet) :
    (ofSelection target selection).map Prod.fst = selection.kinds := by
  induction selection using List.reverseRecOn with
  | nil => rfl
  | append_singleton front last ih =>
      rw [ofSelection_concat, add, SelectionSet.kinds_concat]
      cases AggregationKind.ofName? last.name with
      | none => exact ih
      | some kind => rw [Entries.keys_put, ih]

/-- Below every kind is collected what its selections ask for. -/
theorem getD_find?_ofSelection (target : Target) (selection : SelectionSet)
    (kind : AggregationKind) :
    (Entries.find? kind (ofSelection target selection)).getD [] =
      fieldsUnder target selection kind := by
  induction selection using List.reverseRecOn with
  | nil => rfl
  | append_singleton front last ih =>
      rw [ofSelection_concat, add, fieldsUnder, SelectionSet.under_concat, List.flatMap_append,
        ← fieldsUnder, ← ih]
      cases AggregationKind.ofName? last.name with
      | none => simp
      | some other =>
          rw [Entries.find?_put]
          by_cases same : other = kind
          · simp [same]
          · simp [same]

/-- A selection asks, for each kind in the order of first selection, for what the
selections of that kind ask for. -/
theorem ofSelection_eq (target : Target) (selection : SelectionSet) :
    ofSelection target selection =
      selection.kinds.map fun kind => (kind, fieldsUnder target selection kind) := by
  have distinct : ((ofSelection target selection).map Prod.fst).Nodup := by
    rw [keys_ofSelection]
    exact FirstOccurrences.nodup_eraseDups _
  conv_lhs => rw [Entries.eq_map_getD_find? distinct [], keys_ofSelection]
  apply List.map_congr_left
  intro kind _
  rw [getD_find?_ofSelection]

/-- The store fields that a selection of fields asks for, each once. -/
theorem storeNames_fieldsOf (target : Target) (selection : SelectionSet) :
    (fieldsOf target selection).map DocumentField.storeName =
      ((selection.names.filterMap target.field?).map DocumentField.storeName).eraseDups :=
  FirstOccurrences.map_eraseDupsBy _ _

/-- A selection of fields asks for a store field exactly if a name that stands for it is
selected. -/
theorem storeName_mem_fieldsOf_iff {selection : SelectionSet} {storeName : String} :
    (∃ field ∈ fieldsOf target selection, field.storeName = storeName) ↔
      ∃ name ∈ selection.names, ∃ field,
        target.field? name = some field ∧ field.storeName = storeName := by
  rw [← List.mem_map, storeNames_fieldsOf, List.mem_eraseDups]
  simp only [List.mem_map, List.mem_filterMap]
  constructor
  · rintro ⟨field, ⟨name, member, found⟩, same⟩
    exact ⟨name, member, field, found, same⟩
  · rintro ⟨name, member, field, found, same⟩
    exact ⟨field, ⟨name, member, found⟩, same⟩

/-- The search has an entry for every field that is selected under a kind, and no other. -/
theorem of_mem_entries_iff {selection : SelectionSet} {kind : AggregationKind}
    {storeName : String} :
    Aggregation.of kind storeName ∈ (ofSelection target selection).entries ↔
      ∃ field ∈ fieldsUnder target selection kind, field.storeName = storeName := by
  rw [ofSelection_eq, entries]
  simp only [List.mem_flatMap, List.mem_map]
  constructor
  · rintro ⟨_, ⟨other, _, rfl⟩, field, member, same⟩
    obtain ⟨rfl, named⟩ := Aggregation.of_name_inj.mp (congrArg Aggregation.name same)
    exact ⟨field, member, named⟩
  · rintro ⟨field, member, rfl⟩
    refine ⟨_, ⟨kind, ?_, rfl⟩, field, member, rfl⟩
    obtain ⟨children, below, _⟩ := List.mem_flatMap.mp member
    exact SelectionSet.mem_kinds_of_under below

/-- Under a kind a store field is asked for exactly if a name that stands for it is
selected there. -/
theorem storeName_mem_fieldsUnder_iff {selection : SelectionSet} {kind : AggregationKind}
    {storeName : String} :
    (∃ field ∈ fieldsUnder target selection kind, field.storeName = storeName) ↔
      ∃ selected ∈ selection, AggregationKind.ofName? selected.name = some kind ∧
        ∃ name ∈ SelectionSet.names selected.children, ∃ field,
          target.field? name = some field ∧ field.storeName = storeName := by
  constructor
  · rintro ⟨field, member, same⟩
    obtain ⟨children, selectedBelow, asked⟩ := List.mem_flatMap.mp member
    obtain ⟨selected, listed, named, rfl⟩ := SelectionSet.mem_under_iff.mp selectedBelow
    exact ⟨selected, listed, named, storeName_mem_fieldsOf_iff.mp ⟨field, asked, same⟩⟩
  · rintro ⟨selected, listed, named, asks⟩
    obtain ⟨field, asked, same⟩ := storeName_mem_fieldsOf_iff.mpr asks
    have selectedBelow := SelectionSet.mem_under_iff.mpr ⟨selected, listed, named, rfl⟩
    exact ⟨field, List.mem_flatMap.mpr ⟨selected.children, selectedBelow, asked⟩, same⟩

/-- A field that is asked for is one that the collection has under the selected name. -/
theorem exists_field?_of_mem_fieldsUnder {selection : SelectionSet} {kind : AggregationKind}
    {field : DocumentField} (member : field ∈ fieldsUnder target selection kind) :
    ∃ name, target.field? name = some field := by
  obtain ⟨children, _, asked⟩ := List.mem_flatMap.mp member
  obtain ⟨name, _, found⟩ := List.mem_filterMap.mp (FirstOccurrences.mem_of_mem_eraseDupsBy asked)
  exact ⟨name, found⟩

section Named

variable (named : ∀ name field, target.field? name = some field →
  field.identifier = name ∧ Names.normalize field.storeName = name)

include named

/-- Of the selected names those of fields are asked for, each once. -/
theorem identifiers_fieldsOf (selection : SelectionSet) :
    (fieldsOf target selection).map DocumentField.identifier =
      (selection.names.filter fun name => (target.field? name).isSome).eraseDups := by
  have agree : ∀ first ∈ selection.names.filterMap target.field?,
      ∀ second ∈ selection.names.filterMap target.field?,
        (first.storeName == second.storeName) = (first.identifier == second.identifier) := by
    intro first firstMember second secondMember
    obtain ⟨firstName, _, firstFound⟩ := List.mem_filterMap.mp firstMember
    obtain ⟨secondName, _, secondFound⟩ := List.mem_filterMap.mp secondMember
    obtain ⟨firstNamed, firstNormal⟩ := named firstName first firstFound
    obtain ⟨secondNamed, secondNormal⟩ := named secondName second secondFound
    rw [Bool.eq_iff_iff, beq_iff_eq, beq_iff_eq, firstNamed, secondNamed]
    constructor
    · intro same
      rw [← firstNormal, ← secondNormal, same]
    · rintro rfl
      rw [Option.some.inj (firstFound.symm.trans secondFound)]
  have found : (selection.names.filterMap target.field?).map DocumentField.identifier =
      selection.names.filter fun name => (target.field? name).isSome := by
    rw [List.map_filterMap, ← List.filterMap_eq_filter]
    apply List.filterMap_congr
    intro name _
    cases bound : target.field? name with
    | none => simp [Option.guard, bound]
    | some field => simp [Option.guard, bound, (named name field bound).1]
  rw [fieldsOf, distinctFields, FirstOccurrences.eraseDupsBy_congr agree,
    FirstOccurrences.map_eraseDupsBy, found]

/-- Under a kind the selected names of fields are asked for, first occurrences in order. -/
theorem identifiers_fieldsUnder (selection : SelectionSet) (kind : AggregationKind) :
    ((fieldsUnder target selection kind).map DocumentField.identifier).eraseDups =
      ((selection.namesUnder kind).filter fun name => (target.field? name).isSome).eraseDups := by
  rw [fieldsUnder, List.map_flatMap, SelectionSet.namesUnder, List.filter_flatMap]
  simp only [identifiers_fieldsOf named]
  rw [FirstOccurrences.eraseDups_flatMap_eraseDups]

/-- The results of a kind are listed by the selected names of fields, and each is what
is read for its field. -/
theorem entries_kindResults {results : Fields} {selection : SelectionSet}
    {kind : AggregationKind} {computed? : DocumentField → Option Json}
    (computes : ∀ field ∈ fieldsUnder target selection kind,
      (Aggregation.outcome results kind field).value? = computed? field) :
    (kindResults results kind (fieldsUnder target selection kind)).entries =
      Entries.keyed
        (((selection.namesUnder kind).filter fun name => (target.field? name).isSome).eraseDups)
        fun name => (target.field? name).bind computed? := by
  have found : ∀ field ∈ fieldsUnder target selection kind,
      target.field? field.identifier = some field := by
    intro field member
    obtain ⟨name, bound⟩ := exists_field?_of_mem_fieldsUnder member
    rw [(named name field bound).1, bound]
  have read : (fieldsUnder target selection kind).filterMap (fun field =>
        (Aggregation.outcome results kind field).value?.map fun value =>
          (field.identifier, value)) =
      Entries.keyed ((fieldsUnder target selection kind).map DocumentField.identifier)
        fun name => (target.field? name).bind computed? := by
    rw [Entries.keyed, List.filterMap_map]
    apply List.filterMap_congr
    intro field member
    simp [computes field member, found field member]
  rw [kindResults, read, OrderedMap.entries_ofList_keyed, identifiers_fieldsUnder named]

/-- The results are listed by the selected kinds, and under each by the selected
names of fields. -/
theorem read_ofSelection {results : Fields} {selection : SelectionSet}
    {computed? : AggregationKind → DocumentField → Option Json}
    (computes : ∀ kind, ∀ field ∈ fieldsUnder target selection kind,
      (Aggregation.outcome results kind field).value? = computed? kind field) :
    (ofSelection target selection).read results =
      .object (selection.kinds.map fun kind => (kind.name, .object (Entries.keyed
        (((selection.namesUnder kind).filter fun name => (target.field? name).isSome).eraseDups)
        fun name => (target.field? name).bind (computed? kind)))) := by
  rw [read, ofSelection_eq, List.map_map]
  congr 1
  apply List.map_congr_left
  intro kind _
  rw [← entries_kindResults named (computes kind)]
  rfl

end Named

/-- With nothing to compute, every kind has an empty result. -/
theorem read_of_entries_eq_nil {requested : Requested} (nothing : requested.entries = [])
    (results : Fields) :
    requested.read results = .object (requested.map fun entry => (entry.1.name, .object [])) := by
  rw [read]
  congr 1
  apply List.map_congr_left
  rintro ⟨kind, fields⟩ member
  have empty : fields = [] :=
    List.map_eq_nil_iff.mp (List.flatMap_eq_nil_iff.mp nothing _ member)
  rw [empty]
  rfl

end Requested

/-- The plan for aggregating: one search for everything that is asked for, or, where that
is nothing, what would be read from no results. -/
theorem Resolver.plan_aggregations {registry : Registry} {target : Target} {arguments : Fields}
    {selection : SelectionSet} {filter : Option Filter}
    (filterRead : Arguments.filter arguments = .ok filter) :
    Resolver.plan registry ⟨.aggregations, target⟩ arguments selection =
      if (Requested.ofSelection target selection).entries.isEmpty then
        .ok (.answered ((Requested.ofSelection target selection).read .empty))
      else
        .ok (.asks
          (.search
            { collection := target.storeName
              query := Filter.toQuery registry filter
              size := 0
              source := .disabled
              aggregations := (Requested.ofSelection target selection).entries })
          (.aggregations (Requested.ofSelection target selection))) := by
  simp only [Resolver.plan, Resolver.aggregationsPlan, filterRead]
  by_cases nothing : (Requested.ofSelection target selection).entries.isEmpty = true
  · rw [if_pos nothing, Requested.read_of_entries_eq_nil (List.isEmpty_iff.mp nothing)]
    exact if_pos nothing
  · rw [if_neg nothing]
    exact if_neg nothing

end DocQuery
