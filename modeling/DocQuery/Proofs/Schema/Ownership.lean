import DocQuery.Proofs.Schema.GeneratedNames
import DocQuery.Request.Plan
import Mathlib.Data.List.Nodup

/-!
# Which collection a definition belongs to

Names of root fields and types start with the name of the collection that
generates them, and collections are merged in the order of these names. Hence a
collection whose name is a beginning of another comes first and cannot take away
the list of documents or the type of documents of the other, as
`resolver_list_of_assembled` and `object?_documentName_of_assembled` say.
-/

namespace DocQuery.Compile

variable {config : Config} {metadata : Fields} {schema : Schema}

/-- The collection as the root fields of a contribution act on it. -/
def Contribution.target (contribution : Contribution) : Target :=
  .ofFields contribution.storeName contribution.identifier contribution.fields

/-- A root field is named after its collection and what it does, and acts on its collection. -/
theorem name_of_mem_rootFields {contribution : Contribution}
    (contributed : contribution ∈ contributions config metadata) {field : Field}
    (member : field ∈ contribution.rootFields) :
    ∃ access : Access, field.name = contribution.identifier ++ access.suffix ∧
      field.resolver = some ⟨access, contribution.target⟩ := by
  obtain ⟨name, mapping, rfl⟩ := exists_contribute_of_mem contributed
  simp only [contribute, rootFields, List.mem_append, List.mem_cons, List.not_mem_nil,
    or_false] at member
  rcases member with (rfl | rfl) | aggregated
  · refine ⟨.list, ?_, rfl⟩
    simp only [listField, Field.resolvedBy, Access.suffix, String.append_empty]
    split <;> rfl
  · exact ⟨.byId, rfl, rfl⟩
  · split at aggregated
    · rw [List.mem_singleton] at aggregated
      subst aggregated
      exact ⟨.aggregations, rfl, rfl⟩
    · cases aggregated

/-- The root field that is found under a name was generated for a single collection. It is
named after it, and acts on it, whatever collections have the same identifier and in
whatever order they were compiled. -/
theorem exists_sole_owner {compiled : List Contribution}
    (order : compiled.Perm (contributions config metadata))
    (assembled : assemble compiled = .ok schema) {name : String} {field : Field}
    (found : schema.field? name = some field) :
    ∃ owner ∈ compiled, field ∈ owner.rootFields ∧
      (∀ other ∈ compiled, field ∈ other.rootFields → other = owner) ∧
      ∃ access : Access, name = owner.identifier ++ access.suffix ∧
        schema.resolver name = .ok ⟨access, owner.target⟩ := by
  obtain ⟨named, owner, listed, own⟩ := exists_owner_of_field? assembled found
  obtain ⟨access, spelt, resolved⟩ := name_of_mem_rootFields (order.mem_iff.mp listed) own
  refine ⟨owner, listed, own, ?_, access, named.symm.trans spelt, ?_⟩
  · intro other otherListed otherOwn
    obtain ⟨_, _, otherResolved⟩ :=
      name_of_mem_rootFields (order.mem_iff.mp otherListed) otherOwn
    have same := (Resolver.mk.inj (Option.some.inj (otherResolved.symm.trans resolved))).2
    exact List.inj_on_of_nodup_map nodup_storeNames (order.mem_iff.mp otherListed)
      (order.mem_iff.mp listed) (congrArg Target.storeName same)
  · rw [Schema.resolver, found]
    simp only [resolved]

/-- Every resolver of a schema is that of a collection, under a name of the collection. -/
theorem contribution_of_resolver {compiled : List Contribution}
    (order : compiled.Perm (contributions config metadata))
    (assembled : assemble compiled = .ok schema)
    {name : String} {resolver : Resolver} (found : schema.resolver name = .ok resolver) :
    ∃ contribution ∈ contributions config metadata,
      resolver.target = contribution.target ∧
        name = contribution.identifier ++ resolver.access.suffix := by
  cases known : schema.field? name with
  | none => simp [Schema.resolver, known] at found
  | some field =>
      obtain ⟨owner, listed, _, _, access, named, resolved⟩ :=
        exists_sole_owner order assembled known
      obtain rfl := Except.ok.inj (found.symm.trans resolved)
      exact ⟨owner, order.mem_iff.mp listed, rfl, named⟩

/-- A resolver that goes to the store for a collection acts on that collection, under a
name of it. -/
theorem own_of_resolver {compiled : List Contribution}
    (order : compiled.Perm (contributions config metadata))
    (assembled : assemble compiled = .ok schema)
    {name : String} {resolver : Resolver} (found : schema.resolver name = .ok resolver)
    {contribution : Contribution} (contributed : contribution ∈ contributions config metadata)
    (same : resolver.target.storeName = contribution.storeName) :
    resolver.target = contribution.target ∧
      name = contribution.identifier ++ resolver.access.suffix := by
  obtain ⟨other, otherContributed, acts, named⟩ :=
    contribution_of_resolver order assembled found
  have sameName : other.storeName = contribution.storeName := by
    rw [← same, acts]
    rfl
  obtain rfl := List.inj_on_of_nodup_map nodup_storeNames otherContributed contributed sameName
  exact ⟨acts, named⟩

/-- A resolver that goes to the store for a collection has the fields of that collection. -/
theorem target_of_resolver {compiled : List Contribution}
    (order : compiled.Perm (contributions config metadata))
    (assembled : assemble compiled = .ok schema)
    {name : String} {resolver : Resolver} (found : schema.resolver name = .ok resolver)
    {contribution : Contribution} (contributed : contribution ∈ contributions config metadata)
    (same : resolver.target.storeName = contribution.storeName) :
    resolver.target = contribution.target :=
  (own_of_resolver order assembled found contributed same).1

/-- Root fields of a collection are told apart by what is behind its identifier. -/
theorem suffix_inj {access other : Access} (same : access.suffix = other.suffix) :
    access = other := by
  cases access <;> cases other <;> first | rfl | exact absurd same (by decide)

/-- A resolver that goes to the store for a collection does what its name says. -/
theorem access_of_resolver {compiled : List Contribution}
    (order : compiled.Perm (contributions config metadata))
    (assembled : assemble compiled = .ok schema)
    {contribution : Contribution} (contributed : contribution ∈ contributions config metadata)
    {access : Access} {resolver : Resolver}
    (found : schema.resolver (contribution.identifier ++ access.suffix) = .ok resolver)
    (same : resolver.target.storeName = contribution.storeName) :
    resolver.access = access := by
  have named := (own_of_resolver order assembled found contributed same).2
  exact suffix_inj ((String.append_right_inj _).mp named.symm)

/-- In the order of merging, no collection behind another has a smaller name, and
none is the same collection. -/
theorem exists_split_inOrder {contribution : Contribution}
    (contributed : contribution ∈ contributions config metadata) :
    ∃ before after, inOrder (contributions config metadata) = before ++ contribution :: after ∧
      ∀ later ∈ after, later ∈ contributions config metadata ∧
        contribution.identifier ≤ later.identifier ∧
        contribution.storeName ≠ later.storeName := by
  obtain ⟨before, after, split⟩ :=
    List.append_of_mem ((inOrder_perm _).mem_iff.mpr contributed)
  refine ⟨before, after, split, ?_⟩
  intro later member
  have ordered := pairwise_inOrder (contributions config metadata)
  have distinct := ((inOrder_perm (contributions config metadata)).map
    Contribution.storeName).nodup_iff.mpr nodup_storeNames
  have listed : later ∈ inOrder (contributions config metadata) := by
    rw [split]
    exact List.mem_append_right _ (List.mem_cons_of_mem _ member)
  rw [split, List.pairwise_append, List.pairwise_cons] at ordered
  rw [split, List.map_append, List.map_cons, List.nodup_append, List.nodup_cons] at distinct
  refine ⟨(inOrder_perm _).mem_iff.mp listed, ordered.2.1.1 later member, ?_⟩
  intro same
  exact distinct.2.1.1 (List.mem_map.mpr ⟨later, member, same.symm⟩)

/-- The first root field of a collection lists its documents, and the others have
longer names. -/
theorem rootFields_eq_list_cons {contribution : Contribution}
    (contributed : contribution ∈ contributions config metadata) :
    ∃ list others, contribution.rootFields = list :: others ∧
      list.name = contribution.identifier ∧
      list.resolver = some ⟨.list, contribution.target⟩ ∧
      ∀ other ∈ others, other.name ≠ contribution.identifier := by
  obtain ⟨name, mapping, rfl⟩ := exists_contribute_of_mem contributed
  refine ⟨listField _ _, byIdField _ :: if _ then [aggregationsField _] else [], rfl, ?_, rfl, ?_⟩
  · simp only [listField, Field.resolvedBy]
    split <;> rfl
  · intro other member
    rcases List.mem_cons.mp member with rfl | aggregated
    · exact append_ne_self (by decide : "_by_id" ≠ "")
    · split at aggregated
      · rw [List.mem_singleton] at aggregated
        subst aggregated
        exact append_ne_self (by decide : "_aggregations" ≠ "")
      · cases aggregated

/-- Every collection has root fields for its documents. -/
theorem exists_rootField_of_documents {contribution : Contribution}
    (contributed : contribution ∈ contributions config metadata) {access : Access}
    (documents : access ≠ .aggregations) :
    ∃ field ∈ contribution.rootFields, field.name = contribution.identifier ++ access.suffix ∧
      field.resolver = some ⟨access, contribution.target⟩ := by
  cases access with
  | list =>
      obtain ⟨list, others, own, named, resolved, _⟩ := rootFields_eq_list_cons contributed
      exact ⟨list, own ▸ List.mem_cons_self, by rw [named]; exact String.append_empty.symm,
        resolved⟩
  | byId =>
      obtain ⟨name, mapping, rfl⟩ := exists_contribute_of_mem contributed
      exact ⟨_, List.mem_cons_of_mem _ List.mem_cons_self, rfl, rfl⟩
  | aggregations => exact absurd rfl documents

/-- Of what collections define under names that start with their own, the first
definition of a collection is found, unless another collection has its name. -/
theorem findLast?_merged {α : Type} (part : Contribution → List α) (key : α → String)
    {contribution : Contribution} (contributed : contribution ∈ contributions config metadata)
    (alone : ∀ other ∈ contributions config metadata,
      other.identifier = contribution.identifier → other.storeName = contribution.storeName)
    {first : α} {others : List α} (own : part contribution = first :: others)
    (differ : ∀ other ∈ others, key other ≠ key first)
    (smaller : ∀ later ∈ contributions config metadata, ∀ other ∈ part later,
      key other = key first → later.identifier ≤ contribution.identifier) :
    Entries.findLast? (key first)
      (((inOrder (contributions config metadata)).flatMap part).map fun item =>
        (key item, item)) = some first := by
  obtain ⟨before, after, split, behind⟩ := exists_split_inOrder contributed
  have merged : (inOrder (contributions config metadata)).flatMap part =
      before.flatMap part ++ first :: (others ++ after.flatMap part) := by
    rw [split]
    simp [own]
  rw [merged, List.map_append, List.map_cons]
  apply Entries.findLast?_eq_of_last
  intro entry member
  obtain ⟨item, defined, rfl⟩ := List.mem_map.mp member
  rcases List.mem_append.mp defined with other | foreign
  · exact differ item other
  · -- A collection behind that defines the name would have to be one with the same name.
    intro same
    obtain ⟨later, listed, generated⟩ := List.mem_flatMap.mp foreign
    obtain ⟨laterContributed, ordered, distinct⟩ := behind later listed
    have notLater := smaller later laterContributed item generated same
    exact distinct (alone later laterContributed (String.le_antisymm notLater ordered)).symm

/-- A collection lists its documents under its name, unless another collection has that name. -/
theorem resolver_list_of_assembled
    (assembled : assemble (contributions config metadata) = .ok schema)
    {contribution : Contribution} (contributed : contribution ∈ contributions config metadata)
    (alone : ∀ other ∈ contributions config metadata,
      other.identifier = contribution.identifier → other.storeName = contribution.storeName) :
    schema.resolver contribution.identifier = .ok ⟨.list, contribution.target⟩ := by
  obtain ⟨list, others, own, named, resolved, longer⟩ := rootFields_eq_list_cons contributed
  have smaller : ∀ later ∈ contributions config metadata, ∀ field ∈ later.rootFields,
      field.name = list.name → later.identifier ≤ contribution.identifier := by
    intro later laterContributed field generated same
    obtain ⟨access, fieldNamed, _⟩ := name_of_mem_rootFields laterContributed generated
    rw [fieldNamed, named] at same
    exact same ▸ le_append later.identifier access.suffix
  have last : schema.field? list.name = some list := by
    rw [field?_of_assembled assembled]
    exact findLast?_merged Contribution.rootFields Field.name contributed alone own
      (named.symm ▸ longer) smaller
  rw [Schema.resolver, ← named, last]
  simp only [resolved]

/-- The first type of a collection is that of its documents. A type with the
ending of documents has in front of it the name of the collection, or a longer one. -/
theorem types_eq_document_cons {contribution : Contribution}
    (contributed : contribution ∈ contributions config metadata) :
    ∃ others, contribution.types =
        .object (documentType contribution.identifier contribution.fields) :: others ∧
      ∀ other ∈ others, ∀ name, other.name = documentName name →
        ∃ more, more ≠ "" ∧ name = contribution.identifier ++ more := by
  obtain ⟨name, mapping, rfl⟩ := exists_contribute_of_mem contributed
  refine ⟨(if _ then _ else []) ++ (if _ then _ else []), rfl, ?_⟩
  intro other member owner same
  rcases List.mem_append.mp member with filtering | aggregating
  · split at filtering
    · obtain ⟨type, generated, rfl⟩ := List.mem_map.mp filtering
      exact absurd same (input_name_ne_documentName generated owner)
    · cases filtering
  · split at aggregating
    · rcases List.mem_append.mp aggregating with behind | shared
      · obtain ⟨type, generated, rfl⟩ := List.mem_map.mp behind
        exact aggregation_name_eq_documentName generated same
      · rw [List.mem_singleton] at shared
        subst shared
        exact absurd same (pairName_ne_documentName owner)
    · cases aggregating

/-- Documents of a collection have the type generated for it, unless another
collection has its name. -/
theorem object?_documentName_of_assembled
    (assembled : assemble (contributions config metadata) = .ok schema)
    {contribution : Contribution} (contributed : contribution ∈ contributions config metadata)
    (alone : ∀ other ∈ contributions config metadata,
      other.identifier = contribution.identifier → other.storeName = contribution.storeName) :
    schema.object? (documentName contribution.identifier) =
      some (documentType contribution.identifier contribution.fields) := by
  obtain ⟨others, own, longer⟩ := types_eq_document_cons contributed
  let document := TypeDef.object (documentType contribution.identifier contribution.fields)
  have named : document.name = documentName contribution.identifier := documentType_name _ _
  have differ : ∀ other ∈ others, other.name ≠ document.name := by
    intro other member same
    obtain ⟨more, some, equal⟩ := longer other member _ (same.trans named)
    exact append_ne_self some equal.symm
  have smaller : ∀ later ∈ contributions config metadata, ∀ type ∈ later.types,
      type.name = document.name → later.identifier ≤ contribution.identifier := by
    intro later laterContributed type generated same
    obtain ⟨laterOthers, laterOwn, laterLonger⟩ := types_eq_document_cons laterContributed
    rw [laterOwn] at generated
    rcases List.mem_cons.mp generated with rfl | other
    · rw [named, TypeDef.name, documentType_name, documentName, documentName,
        String.append_left_inj] at same
      exact same ▸ String.le_refl _
    · obtain ⟨more, _, equal⟩ := laterLonger type other _ (same.trans named)
      exact equal ▸ le_append later.identifier more
  have last : schema.type? document.name = some document := by
    rw [type?_of_assembled assembled]
    exact findLast?_merged Contribution.types TypeDef.name contributed alone own differ smaller
  rw [Schema.object?, ← named, last]

end DocQuery.Compile
