import DocQuery.Proofs.Request.Documents

/-!
# Documents in a list and documents by id

A list reads the documents of a collection off a search, and a document by its id comes
from a look-up. `Session.list_agrees_with_byId` says that both show the same: a list that
leaves nothing out is the documents by id, one after the other. Names may collide, dates
may be unreadable, and any names may be selected.
-/

namespace DocQuery

namespace Compile

variable {config : Config} {metadata : Fields} {schema : Schema}

/-- A root field that goes to the store for the collection that it is named after is the
one that this collection contributes under the name. -/
theorem exists_contribution_of_own_resolver {compiled : List Contribution}
    (order : compiled.Perm (contributions config metadata))
    (assembled : assemble compiled = .ok schema) {name : String}
    {access : Access} {resolver : Resolver}
    (found : schema.resolver (Names.normalize name ++ access.suffix) = .ok resolver)
    (own : resolver.target.storeName = name) :
    ∃ contribution ∈ contributions config metadata,
      contribution.storeName = name ∧ resolver = ⟨access, contribution.target⟩ := by
  obtain ⟨contribution, contributed, acts, named⟩ :=
    contribution_of_resolver order assembled found
  have same : contribution.storeName = name :=
    (congrArg Target.storeName acts).symm.trans own
  rw [(identifiers_of_contribution contributed).1, same, String.append_right_inj] at named
  refine ⟨contribution, contributed, same, ?_⟩
  rw [suffix_inj named, ← acts]

end Compile

/-- The store answers a request for a document by what it has under the id, and reading
the answer makes a record of it. -/
theorem Resolver.answer_byId {registry : Registry} {memory : Memory} {target : Target}
    {arguments : Fields} {selection : SelectionSet} {collection : Collection} {id : String}
    (stored : memory.collections.find? target.storeName = some collection)
    (idRead : Arguments.id arguments = .ok id) :
    Resolver.answer ⟨.byId, target⟩ registry memory arguments selection =
      .ok (((collection.documents.find? id).map fun source =>
        Json.ofFields (Record.ofDocument registry target selection (id, source))).getD .null) := by
  rw [Resolver.answer, Resolver.plan_byId idRead]
  show Except.mapError _ (memory.answer _ >>= _) = _
  simp only [Memory.answer, Memory.collection, stored, Except.map, Collection.get?]
  cases collection.documents.find? id <;> rfl

namespace Session

/-- However an id is given, and however long the store may take, a root field shows the
same value for it. -/
def FetchesAs (session : Session) (field : String) (selection : SelectionSet) (id : String)
    (value : Json) : Prop :=
  ∀ request : Request, request.field = field → request.selection = selection →
    Arguments.id request.arguments = .ok id →
      (session.step (.resolve request)).yielded = .value (.ok value)

/-- Over a store in memory, and whatever names are registered, a collection lists without
a filter what it shows of each document by its id, in the order of the store, if the size
is large enough; for an id that is not in the store it shows nothing. -/
theorem list_agrees_with_byId {config : Config} {metadata : Fields}
    {compiled : List Compile.Contribution} {memory : Memory} {session : Session} {name : String}
    {collection : Collection} {listing single : Resolver} {request : Request} {size : Nat}
    (order : compiled.Perm (Compile.contributions config metadata))
    (assembled : Compile.assemble compiled = .ok session.schema)
    (unscripted : session.store = ⟨memory, []⟩)
    (stored : memory.collections.find? name = some collection)
    (listFound : session.schema.resolver (Names.normalize name ++ Access.list.suffix) =
      .ok listing)
    (listOwn : listing.target.storeName = name)
    (byIdFound : session.schema.resolver (Names.normalize name ++ Access.byId.suffix) =
      .ok single)
    (byIdOwn : single.target.storeName = name)
    (field : request.field = Names.normalize name ++ Access.list.suffix)
    (sizeRead : Arguments.size request.arguments = .ok size)
    (unfiltered : Arguments.filter request.arguments = .ok none)
    (enough : collection.documents.entries.length ≤ size) :
    let fetchesAs := session.FetchesAs (Names.normalize name ++ Access.byId.suffix)
      request.selection
    (∃ records,
      (session.step (.resolve request)).yielded = .value (.ok (.array records)) ∧
      List.Forall₂ fetchesAs collection.documents.keys records) ∧
    ∀ id, id ∉ collection.documents.keys → fetchesAs id .null := by
  intro fetchesAs
  obtain ⟨contribution, contributed, named, rfl⟩ :=
    Compile.exists_contribution_of_own_resolver order assembled listFound listOwn
  obtain ⟨other, otherContributed, otherNamed, rfl⟩ :=
    Compile.exists_contribution_of_own_resolver order assembled byIdFound byIdOwn
  obtain rfl := List.inj_on_of_nodup_map Compile.nodup_storeNames contributed otherContributed
    (named.trans otherNamed.symm)
  have kept : memory.collections.find? contribution.target.storeName = some collection := by
    rw [← stored, ← named]
    rfl
  have fetched : ∀ id, fetchesAs id
      (((collection.documents.find? id).map fun source => Json.ofFields
        (Record.ofDocument session.registry contribution.target request.selection
          (id, source))).getD .null) := by
    intro id single singleField selection idRead
    rw [← singleField] at byIdFound
    rw [step_resolve unscripted byIdFound, Resolver.answer_byId kept idRead, selection]
  refine ⟨?listed, ?absent⟩
  case listed =>
    -- Without a filter the query selects every document, and the size cuts none off.
    have everything : (collection.documents.entries.filter fun document =>
        (Filter.toQuery session.registry none).holds document.2).take size =
          collection.documents.entries := by
      have selected : ∀ document ∈ collection.documents.entries,
          (Filter.toQuery session.registry none).holds document.2 = true := fun _ _ => rfl
      rw [List.filter_eq_self.mpr selected, List.take_of_length_le enough]
    rw [← field] at listFound
    rw [step_resolve unscripted listFound, Resolver.answer_list kept sizeRead unfiltered,
      everything, List.map_map]
    refine ⟨_, rfl, ?_⟩
    show List.Forall₂ fetchesAs (collection.documents.entries.map Prod.fst) _
    rw [List.forall₂_map_left_iff, List.forall₂_map_right_iff, List.forall₂_same]
    intro document member
    have held := fetched document.1
    rw [OrderedMap.find?_eq_some_iff_mem.mpr member] at held
    exact held
  case absent =>
    intro id missing
    have held := fetched id
    rw [← OrderedMap.find?_isSome_iff, Option.not_isSome_iff_eq_none] at missing
    rw [missing] at held
    exact held

/-- A list of the readings agrees with the readings by id. One of the selected dates cannot
be read, and another name has taken over the identifier of the sensor. -/
theorem list_of_readings_agrees_with_byId :
    let request : Request :=
      { field := "es_index"
        arguments := .ofList [("size", .ofNat 10)]
        selection := ["id", "timestamp", "sensor"].map Selection.leaf
        timeout := none }
    ∃ session trace, start {} .empty ⟨.readings, []⟩ none none = (.ok session, trace) ∧
      let shadowed := (session.step (.register "sensor?")).state
      let fetchesAs := shadowed.FetchesAs "es_index_by_id" request.selection
      (∃ records,
        (shadowed.step (.resolve request)).yielded = .value (.ok (.array records)) ∧
        List.Forall₂ fetchesAs ["a", "b", "c", "d"] records) ∧
      ∀ id, id ∉ ["a", "b", "c", "d"] → fetchesAs id .null := by
  intro request
  obtain ⟨session, trace, started, opened, found⟩ := exists_session_of_readings
  obtain ⟨collection, stored, listed, enough⟩ : ∃ collection,
      Memory.readings.collections.find? "es-index" = some collection ∧
        collection.documents.keys = ["a", "b", "c", "d"] ∧
        collection.documents.entries.length ≤ 10 := ⟨_, rfl, rfl, by decide⟩
  let shadowed := (session.step (.register "sensor?")).state
  have assembled : _ = Except.ok shadowed.schema := opened.assembled
  have unscripted : shadowed.store = ⟨.readings, []⟩ := opened.unscripted
  have agrees := list_agrees_with_byId (.refl _) assembled unscripted stored
    (found .list (by decide)) rfl (found .byId (by decide)) rfl (rfl : request.field = _) rfl rfl
    enough
  rw [listed] at agrees
  exact ⟨session, trace, started, agrees⟩

end Session

end DocQuery
