import Mathlib.Data.List.Count
import Mathlib.Data.List.Nodup
import DocQuery.Proofs.Request.Traffic

/-!
# Repetitions in a selection of aggregations

A kind may be selected more than once, and so may a field under a kind. Within one selection
of a kind a repeated field asks for nothing more, but every further selection of the kind
that selects the field adds an entry of the same name to the search
(`Requested.count_entries`). The body of the search has each name once. The main result is
`Session.entries_are_repeated_with_kinds`.
-/

namespace DocQuery

namespace FirstOccurrences

variable {ι α : Type} [DecidableEq α]

/-- In parts without repetitions an item occurs as often as there are parts with it. -/
theorem count_flatMap_of_nodup {part : ι → List α} {parts : List ι}
    (distinct : ∀ one ∈ parts, (part one).Nodup) (item : α) :
    (parts.flatMap part).count item = parts.countP fun one => item ∈ part one := by
  induction parts with
  | nil => rfl
  | cons head rest ih =>
      obtain ⟨headDistinct, restDistinct⟩ := List.forall_mem_cons.mp distinct
      rw [List.flatMap_cons, List.count_append, List.countP_cons, ih restDistinct, Nat.add_comm]
      congr 1
      by_cases member : item ∈ part head
      · simp [member, List.count_eq_one_of_mem headDistinct member]
      · simp [member, List.count_eq_zero_of_not_mem member]

/-- An item that only one of several parts may have occurs as often as in this part. -/
theorem count_flatMap_of_sole [DecidableEq ι] {part : ι → List α} {parts : List ι} {owner : ι}
    {item : α} (distinct : parts.Nodup) (listed : owner ∈ parts)
    (sole : ∀ other, item ∈ part other → other = owner) :
    (parts.flatMap part).count item = (part owner).count item := by
  induction parts with
  | nil => cases listed
  | cons head rest ih =>
      obtain ⟨fresh, restDistinct⟩ := List.nodup_cons.mp distinct
      rw [List.flatMap_cons, List.count_append]
      rcases List.mem_cons.mp listed with rfl | later
      · have none : item ∉ rest.flatMap part := by
          intro member
          obtain ⟨other, otherListed, inside⟩ := List.mem_flatMap.mp member
          exact fresh (sole other inside ▸ otherListed)
        rw [List.count_eq_zero_of_not_mem none, Nat.add_zero]
      · have none : item ∉ part head := by
          intro inside
          exact fresh (sole head inside ▸ later)
        rw [List.count_eq_zero_of_not_mem none, Nat.zero_add, ih restDistinct later]

end FirstOccurrences

/-- How many of the selections of a kind select a name. -/
def SelectionSet.timesSelected (selection : SelectionSet) (kind : AggregationKind)
    (name : String) : Nat :=
  (selection.under kind).countP fun children => name ∈ children.names

/-- The entries of a search are the selected pairs of a kind and a field, each as often as a
selection of the kind selects the field. In the body of the search each pair is there once. -/
structure Search.Repeats (search : Search) (target : Target) (selection : SelectionSet) :
    Prop where
  sole : ∀ entry ∈ search.aggregations, ∃ kind name field, target.field? name = some field ∧
    0 < selection.timesSelected kind name ∧ entry = Aggregation.of kind field.storeName
  repeated : ∀ kind name field, target.field? name = some field →
    search.aggregations.count (.of kind field.storeName) = selection.timesSelected kind name
  distinct : (search.aggregations.map Aggregation.name).Nodup ↔
    ∀ kind name field, target.field? name = some field → selection.timesSelected kind name ≤ 1
  body : search.body.get? "aggs" = some (.object
    (search.aggregations.eraseDups.map fun entry => (entry.name, entry.toJson)))

namespace Requested

variable {target : Target} {selection : SelectionSet}

/-- All entries have the name of their kind and field. -/
theorem eq_of_of_mem_entries {requested : Requested} {entry : Aggregation}
    (member : entry ∈ requested.entries) : entry = Aggregation.of entry.kind entry.field := by
  obtain ⟨_, _, inside⟩ := List.mem_flatMap.mp member
  obtain ⟨_, _, rfl⟩ := List.mem_map.mp inside
  rfl

/-- Entries of one name are the same. -/
theorem eq_of_name_eq {requested : Requested} {entry other : Aggregation}
    (member : entry ∈ requested.entries) (otherMember : other ∈ requested.entries)
    (same : entry.name = other.name) : entry = other := by
  rw [eq_of_of_mem_entries member, eq_of_of_mem_entries otherMember] at same ⊢
  obtain ⟨kind, field⟩ := Aggregation.of_name_inj.mp same
  rw [kind, field]

section Named

variable (named : ∀ name field, target.field? name = some field →
  field.identifier = name ∧ Names.normalize field.storeName = name)

include named

/-- A selection of fields asks for the store field of a name exactly if the name is selected. -/
theorem storeName_mem_fieldsOf_iff_name {name : String} {field : DocumentField}
    (found : target.field? name = some field) (children : SelectionSet) :
    field.storeName ∈ (fieldsOf target children).map DocumentField.storeName ↔
      name ∈ children.names := by
  rw [List.mem_map, storeName_mem_fieldsOf_iff]
  constructor
  · rintro ⟨other, listed, another, otherFound, same⟩
    have normal := (named other another otherFound).2
    rw [same, (named name field found).2] at normal
    rwa [normal]
  · exact fun listed => ⟨name, listed, field, found, rfl⟩

/-- Under a kind a field is asked for as often as a selection of the kind selects it. -/
theorem count_fieldsUnder {name : String} {field : DocumentField}
    (found : target.field? name = some field) (kind : AggregationKind) :
    ((fieldsUnder target selection kind).map DocumentField.storeName).count field.storeName =
      selection.timesSelected kind name := by
  have distinct : ∀ children : SelectionSet,
      ((fieldsOf target children).map DocumentField.storeName).Nodup := by
    intro children
    rw [storeNames_fieldsOf]
    exact FirstOccurrences.nodup_eraseDups _
  rw [fieldsUnder, List.map_flatMap,
    FirstOccurrences.count_flatMap_of_nodup fun children _ => distinct children]
  apply List.countP_congr
  intro children _
  simpa using storeName_mem_fieldsOf_iff_name named found children

/-- The entry for a kind and a field is there as often as a selection of the kind selects the
field. -/
theorem count_entries {name : String} {field : DocumentField}
    (found : target.field? name = some field) (kind : AggregationKind) :
    (ofSelection target selection).entries.count (.of kind field.storeName) =
      selection.timesSelected kind name := by
  rw [← count_fieldsUnder named found]
  by_cases listed : kind ∈ selection.kinds
  · have injective : Function.Injective (Aggregation.of kind) := fun one other same =>
      (Aggregation.of_name_inj.mp (congrArg Aggregation.name same)).2
    have sole : ∀ other, Aggregation.of kind field.storeName ∈
        (fieldsUnder target selection other).map (fun field => .of other field.storeName) →
          other = kind := by
      intro other member
      obtain ⟨_, _, same⟩ := List.mem_map.mp member
      exact (Aggregation.of_name_inj.mp (congrArg Aggregation.name same)).1
    rw [entries, ofSelection_eq, List.flatMap_map]
    refine (FirstOccurrences.count_flatMap_of_sole (FirstOccurrences.nodup_eraseDups _) listed
      sole).trans ?_
    rw [← List.count_map_of_injective _ _ injective, List.map_map]
    rfl
  · have nothing : fieldsUnder target selection kind = [] := by
      rw [List.eq_nil_iff_forall_not_mem]
      intro other member
      obtain ⟨children, below, _⟩ := List.mem_flatMap.mp member
      exact listed (SelectionSet.mem_kinds_of_under below)
    rw [nothing, List.map_nil, List.count_nil, List.count_eq_zero, of_mem_entries_iff, nothing]
    simp

/-- The entries are selected pairs of a kind and a field. -/
theorem exists_selected_of_mem_entries {entry : Aggregation}
    (member : entry ∈ (ofSelection target selection).entries) :
    ∃ kind name field, target.field? name = some field ∧
      0 < selection.timesSelected kind name ∧ entry = Aggregation.of kind field.storeName := by
  have made := eq_of_of_mem_entries member
  have asked := made ▸ member
  obtain ⟨_, _, _, name, _, field, found, same⟩ :=
    storeName_mem_fieldsUnder_iff.mp (of_mem_entries_iff.mp asked)
  rw [← same] at asked made
  refine ⟨entry.kind, name, field, found, ?_, made⟩
  rw [← count_entries named found]
  exact List.count_pos_iff.mpr asked

/-- The entries have different names exactly if no field is selected in two selections of a
kind. -/
theorem nodup_names_iff :
    ((ofSelection target selection).entries.map Aggregation.name).Nodup ↔
      ∀ kind name field, target.field? name = some field →
        selection.timesSelected kind name ≤ 1 := by
  have entriesDistinct : ((ofSelection target selection).entries.map Aggregation.name).Nodup ↔
      (ofSelection target selection).entries.Nodup :=
    ⟨List.Nodup.of_map _, List.Nodup.map_on fun _ member _ => eq_of_name_eq member⟩
  rw [entriesDistinct, List.nodup_iff_count_le_one]
  constructor
  · intro once kind name field found
    rw [← count_entries named found]
    exact once _
  · intro once entry
    by_cases member : entry ∈ (ofSelection target selection).entries
    · obtain ⟨kind, name, field, found, _, rfl⟩ := exists_selected_of_mem_entries named member
      rw [count_entries named found]
      exact once kind name field found
    · rw [List.count_eq_zero_of_not_mem member]
      exact Nat.zero_le 1

/-- A search for the entries repeats what is selected. -/
theorem repeats_of_entries {search : Search}
    (asks : search.aggregations = (ofSelection target selection).entries)
    (something : search.aggregations ≠ []) : search.Repeats target selection := by
  refine ⟨?sole, ?repeated, ?distinct, ?body⟩
  case sole =>
    rw [asks]
    exact fun entry member => exists_selected_of_mem_entries named member
  case repeated =>
    rw [asks]
    exact fun kind name field found => count_entries named found kind
  case distinct =>
    rw [asks]
    exact nodup_names_iff named
  case body =>
    have apart : ∀ entry ∈ search.aggregations, ∀ other ∈ search.aggregations,
        entry.name = other.name → entry = other := by
      rw [asks]
      exact fun _ member _ otherMember => eq_of_name_eq member otherMember
    have present : search.aggregations.isEmpty = false := List.isEmpty_eq_false_iff.mpr something
    rw [Search.body, Json.ofFields, OrderedMap.entries_ofList_map apart, present]
    rfl

end Named

end Requested

/-- A root field that aggregates has nothing to compute exactly if no field is selected under a
kind. -/
theorem SelectionSet.asksNothing_iff {target : Target} {selection : SelectionSet}
    (named : ∀ name field, target.field? name = some field →
      field.identifier = name ∧ Names.normalize field.storeName = name) :
    selection.AsksNothing target ↔ ∀ kind name field, target.field? name = some field →
      selection.timesSelected kind name = 0 := by
  rw [← Requested.entries_ofSelection_eq_nil_iff, List.eq_nil_iff_forall_not_mem]
  constructor
  · intro nothing kind name field found
    rw [← Requested.count_entries named found, List.count_eq_zero]
    exact nothing _
  · intro never entry member
    obtain ⟨kind, name, field, found, selected, _⟩ :=
      Requested.exists_selected_of_mem_entries named member
    have unselected := never kind name field found
    omega

namespace Session

section Assembled

variable {session : Session} {config : Config} {metadata : Fields}
  {compiled : List Compile.Contribution}
  (order : compiled.Perm (Compile.contributions config metadata))
  (assembled : Compile.assemble compiled = .ok session.schema)

include order assembled

/-- Aggregations over a collection are asked for in one search, whose entries are the selected
pairs of a kind and a field of the collection, each as often as a selection of the kind selects
the field. So the entries have different names exactly if no field is selected in two
selections of a kind; the body of the search has each pair once all the same. There is no search
exactly if no pair is selected. -/
theorem entries_are_repeated_with_kinds (request : Request) {target : Target}
    (found : session.schema.resolver request.field = .ok ⟨.aggregations, target⟩)
    (accepted : ∃ filter, Arguments.filter request.arguments = .ok filter) :
    (session.SendsNothing request ↔ ∀ kind name field, target.field? name = some field →
      request.selection.timesSelected kind name = 0) ∧
    (¬ session.SendsNothing request → ∃ search, session.Sends request (.search search) ∧
      search.collection = target.storeName ∧ search.Repeats target request.selection) := by
  obtain ⟨contribution, listed, acts, _⟩ := Compile.contribution_of_resolver order assembled found
  have named : ∀ name field, target.field? name = some field →
      field.identifier = name ∧ Names.normalize field.storeName = name := by
    have same : target = contribution.target := acts
    rw [same]
    exact Compile.identifier_of_field?_target listed
  rw [← SelectionSet.asksNothing_iff named]
  have idles : request.selection.AsksNothing target → session.SendsNothing request :=
    fun nothing => (stops_of_idles found accepted ⟨rfl, nothing⟩).1
  have busy : ¬ request.selection.AsksNothing target → ∃ search,
      session.Sends request (.search search) ∧ search.collection = target.storeName ∧
        search.Repeats target request.selection := by
    intro something
    obtain ⟨_, sends, ⟨filter, _, rfl⟩, _⟩ :=
      sends_of_busy found accepted fun idle => something idle.2
    refine ⟨_, sends, rfl, Requested.repeats_of_entries named rfl ?_⟩
    rwa [Ne, Requested.entries_ofSelection_eq_nil_iff]
  refine ⟨⟨fun silent => ?_, idles⟩, fun sends => busy fun nothing => sends (idles nothing)⟩
  by_contra something
  obtain ⟨_, sends, _⟩ := busy something
  exact sends.not_sendsNothing silent

end Assembled

section Goods

/-- Metadata of a collection with two fields to aggregate over. -/
def goodsMetadata : Fields :=
  .ofList [("goods", Memory.metadataOf [("price", "float"), ("weight", "float")])]

/-- The collection as requests see it. -/
def goods : Target :=
  .ofFields "goods" "goods"
    [⟨"price", "price", "float", .float⟩, ⟨"weight", "weight", "float", .float⟩]

/-- A request for aggregations over the collection. -/
def aggregationsOfGoods (selection : SelectionSet) : Request :=
  ⟨"goods_aggregations", .empty, selection, none⟩

/-- A session over the collection has a root field for aggregations. -/
theorem exists_session_of_goods :
    ∃ session trace,
      start {} .empty ⟨.empty, []⟩ (some goodsMetadata) none = (.ok session, trace) ∧
      Compile.assemble (Compile.contributions {} goodsMetadata) = .ok session.schema ∧
      session.schema.resolver "goods_aggregations" = .ok ⟨.aggregations, goods⟩ := by
  obtain ⟨session, trace, started⟩ : ∃ session trace,
      start {} .empty ⟨.empty, []⟩ (some goodsMetadata) none = (.ok session, trace) :=
    exists_start (rfl : goodsMetadata.find? "goods" = some _) rfl
  have assembled : Compile.assemble (Compile.contributions {} goodsMetadata) =
      .ok session.schema := (opened_of_start started).assembled
  have sorted : Compile.inOrder (Compile.contributions {} goodsMetadata) =
      Compile.contributions {} goodsMetadata := List.mergeSort_of_pairwise (by decide)
  refine ⟨session, trace, started, assembled, ?_⟩
  rw [Schema.resolver, Compile.field?_of_assembled assembled, sorted]
  rfl

/-- A field that is selected twice within a selection of a kind is asked for once. -/
theorem repeated_price_is_asked_for_once :
    ∃ session trace search,
      start {} .empty ⟨.empty, []⟩ (some goodsMetadata) none = (.ok session, trace) ∧
      session.Sends (aggregationsOfGoods
        [⟨"min", [.leaf "price", .leaf "price"]⟩, ⟨"max", [.leaf "price"]⟩]) (.search search) ∧
      search.aggregations.count (.of .min "price") = 1 ∧
      search.aggregations.count (.of .max "weight") = 0 := by
  obtain ⟨session, trace, started, assembled, found⟩ := exists_session_of_goods
  obtain ⟨silent, asks⟩ := entries_are_repeated_with_kinds (.refl _) assembled
    (aggregationsOfGoods [⟨"min", [.leaf "price", .leaf "price"]⟩, ⟨"max", [.leaf "price"]⟩])
    found ⟨none, rfl⟩
  have sends : ¬ session.SendsNothing (aggregationsOfGoods
      [⟨"min", [.leaf "price", .leaf "price"]⟩, ⟨"max", [.leaf "price"]⟩]) := by
    rw [silent]
    intro never
    exact absurd (never .min "price" _ rfl) (by decide)
  obtain ⟨search, sent, _, repeats⟩ := asks sends
  refine ⟨session, trace, search, started, sent, ?_, ?_⟩
  · exact repeats.repeated .min "price" _ rfl
  · exact repeats.repeated .max "weight" _ rfl

/-- A field that is selected in two selections of a kind is asked for twice, under one name. -/
theorem price_of_repeated_kind_is_asked_for_twice :
    ∃ session trace search,
      start {} .empty ⟨.empty, []⟩ (some goodsMetadata) none = (.ok session, trace) ∧
      session.Sends (aggregationsOfGoods [⟨"min", [.leaf "price"]⟩, ⟨"min", [.leaf "price"]⟩])
        (.search search) ∧
      search.aggregations.map Aggregation.name = ["min_price", "min_price"] ∧
      ¬ (search.aggregations.map Aggregation.name).Nodup := by
  obtain ⟨session, trace, started, _, found⟩ := exists_session_of_goods
  have planned : Resolver.plan session.registry ⟨.aggregations, goods⟩ .empty
      [⟨"min", [.leaf "price"]⟩, ⟨"min", [.leaf "price"]⟩] = _ := Resolver.plan_aggregations rfl
  refine ⟨session, trace, _, started, sends_of_plan found planned, rfl, ?_⟩
  show ¬ ["min_price", "min_price"].Nodup
  decide

end Goods

end Session

end DocQuery
