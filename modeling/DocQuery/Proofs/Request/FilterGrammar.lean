import DocQuery.Proofs.Request.WrittenObjects

/-!
# The grammar of filters

Which values are read as filters, and as which. A filter is written as an object of clauses
(`Filter.Written`), a condition as an object with a range or as an array that lists just the
range. Members that are `null` are skipped in objects that are reached through objects, but
not within arrays. `Arguments.filters_are_read_by_their_grammar` says that exactly the values
that are so written are read, that what is read holds what is written, in its order, and that
all other values are refused.
-/

namespace DocQuery

namespace Filter

/-- Bounds are written under their operators, and each is a boolean, a number or a string. -/
def BoundsWritten (bounds : OrderedMap RangeOp Json) (members : List (String × Json)) : Prop :=
  WrittenAs RangeOp.name (fun bound member => bound = member ∧ member.isScalar = true)
    bounds.entries members

/-- A condition is written as an object with no member but a range, or as an array that lists
at most a range. -/
inductive ConditionWritten : Condition → Json → Prop where
  | empty {members : List (String × Json)} (nothing : Json.withoutNulls members = []) :
      ConditionWritten ⟨none⟩ (.object members)
  | range {members inner : List (String × Json)} {bounds : OrderedMap RangeOp Json}
      (only : Json.withoutNulls members = [("range", .object inner)])
      (written : BoundsWritten bounds (Json.withoutNulls inner)) :
      ConditionWritten ⟨some bounds⟩ (.object members)
  | emptyList : ConditionWritten ⟨none⟩ (.array [])
  | nullListed : ConditionWritten ⟨none⟩ (.array [.null])
  | rangeListed {inner : List (String × Json)} {bounds : OrderedMap RangeOp Json}
      (written : BoundsWritten bounds inner) : ConditionWritten ⟨some bounds⟩ (.array [.object inner])

/-- Conditions are written under their fields. -/
def ConditionsWritten (conditions : OrderedMap String Condition) (value : Json) : Prop :=
  ∃ members, value = .object members ∧
    WrittenAs id ConditionWritten conditions.entries (Json.withoutNulls members)

/-- A filter is written as conditions under its clauses. -/
def Written (filter : Filter) (value : Json) : Prop :=
  ∃ members, value = .object members ∧
    WrittenAs Clause.name ConditionsWritten filter.entries (Json.withoutNulls members)

/-- An operator is read from its name alone. -/
theorem readOp_eq_ok_iff {key : String} {op : RangeOp} : readOp key = .ok op ↔ op.name = key := by
  constructor
  · intro read
    rw [readOp] at read
    split at read
    · rename_i found
      cases read
      rw [RangeOp.ofName?] at found
      have named := List.find?_some found
      exact beq_iff_eq.mp named
    · cases read
  · rintro rfl
    exact readOp_name op

/-- A clause is read from its name alone. -/
theorem readClause_eq_ok_iff {key : String} {clause : Clause} :
    readClause key = .ok clause ↔ clause.name = key := by
  constructor
  · intro read
    rw [readClause] at read
    split at read
    · rename_i found
      cases read
      rw [Clause.ofName?] at found
      have named := List.find?_some found
      exact beq_iff_eq.mp named
    · cases read
  · rintro rfl
    exact readClause_name clause

/-- A bound is read under its operator, as it is. -/
theorem readBound_eq_ok_iff {member : String × Json} {op : RangeOp} {bound : Json} :
    (do .ok (← readOp member.1, member.2)) = Except.ok (op, bound) ↔
      op.name = member.1 ∧ bound = member.2 := by
  constructor
  · intro read
    obtain ⟨_, named, made⟩ := Json.exists_ok_of_bind read
    cases made
    exact ⟨readOp_eq_ok_iff.mp named, rfl⟩
  · rintro ⟨named, rfl⟩
    rw [readOp_eq_ok_iff.mpr named]
    rfl

/-- Bounds are read from an object that is not pruned. -/
theorem readBounds_iff {members : List (String × Json)} {bounds : OrderedMap RangeOp Json}
    (distinct : (members.map Prod.fst).Nodup) :
    readBounds (.object members) = .ok bounds ∧ ScalarBounds bounds ↔
      BoundsWritten bounds members := by
  refine readMembers_iff (fun entry => do .ok (← readOp entry.1, entry.2))
    (fun bound => bound.isScalar = true) distinct
    (fun member op bound read => (readBound_eq_ok_iff.mp read).1) ?_
  intro member _ op bound
  rw [readBound_eq_ok_iff, and_assoc]
  refine and_congr_right fun _ => and_congr_right ?_
  rintro rfl
  exact Iff.rfl

/-- Bounds are read from a pruned value. -/
theorem readBounds_prune_iff {value : Json} (keyed : value.Keyed)
    {bounds : OrderedMap RangeOp Json} :
    readBounds value.prune = .ok bounds ∧ ScalarBounds bounds ↔
      ∃ inner, value = .object inner ∧ BoundsWritten bounds (Json.withoutNulls inner) := by
  refine readPruned_iff (fun entry => do .ok (← readOp entry.1, entry.2))
    (fun bound => bound.isScalar = true) keyed
    (fun member op bound read => (readBound_eq_ok_iff.mp read).1) ?_
  intro op member bound _ _
  rw [readBound_eq_ok_iff, and_assoc, Json.prune_eq_scalar_iff]

/-- Bounds that are read without being `null` are there. -/
theorem map_some_iff {result : Except FilterFault (OrderedMap RangeOp Json)}
    {condition : Condition} :
    (result.map some).map Condition.mk = .ok condition ∧ ScalarCondition condition ↔
      ∃ bounds, condition = ⟨some bounds⟩ ∧ result = .ok bounds ∧ ScalarBounds bounds := by
  cases result with
  | error fault =>
      constructor
      · rintro ⟨⟨⟩, _⟩
      · rintro ⟨_, _, ⟨⟩, _⟩
  | ok bounds =>
      constructor
      · rintro ⟨⟨⟩, scalar⟩
        exact ⟨bounds, rfl, rfl, scalar bounds rfl⟩
      · rintro ⟨_, rfl, ⟨⟩, scalar⟩
        refine ⟨rfl, ?_⟩
        rintro _ ⟨⟩
        exact scalar

/-- What is mapped succeeds if it does. -/
theorem exists_ok_of_map {α β ε : Type} {result : Except ε α} {change : α → β} {made : β}
    (mapped : result.map change = .ok made) : ∃ before, result = .ok before := by
  cases result with
  | error fault => cases mapped
  | ok before => exact ⟨before, rfl⟩

/-- All members of a condition that is read are ranges. -/
theorem eq_range_of_readRangeMember {members : List (String × Json)}
    {bounds : Option (OrderedMap RangeOp Json)} (read : readRangeMember members = .ok bounds) :
    ∀ member ∈ members, member.1 = "range" := by
  induction members generalizing bounds with
  | nil => exact nofun
  | cons head rest ih =>
      obtain ⟨key, value⟩ := head
      rw [readRangeMember] at read
      split at read
      · rename_i named
        obtain ⟨_, _, read⟩ := Json.exists_ok_of_bind read
        obtain ⟨_, others, _⟩ := Json.exists_ok_of_bind read
        exact List.forall_mem_cons.mpr ⟨named, ih others⟩
      · cases read

/-- A range that stands alone is the condition. -/
theorem readRangeMember_single (value : Json) :
    readRangeMember [("range", value)] = readOptionalBounds value := by
  rw [readRangeMember, if_pos rfl, readRangeMember]
  cases readOptionalBounds value <;> rfl

/-- What is not `null` has to be bounds. -/
theorem readOptionalBounds_of_present {value : Json} (present : value ≠ .null) :
    readOptionalBounds value = (readBounds value).map some := by
  cases value <;> first | rfl | exact absurd rfl present

/-- A condition is read from an object exactly as it is written. -/
theorem readCondition_object_iff {members : List (String × Json)}
    (keyed : (Json.object members).Keyed) {condition : Condition} :
    readCondition (Json.object members).prune = .ok condition ∧ ScalarCondition condition ↔
      ConditionWritten condition (.object members) := by
  obtain ⟨distinct, inside⟩ := Json.Keyed.object_iff.mp keyed
  have distinct := Json.nodup_withoutNulls distinct
  have kept : ∀ member ∈ Json.withoutNulls members, member.2.Keyed ∧ member.2 ≠ .null :=
    fun member listed => (Json.mem_withoutNulls_iff.mp listed).imp_left (inside member)
  show (readRangeMember (Json.pruneMembers members)).map Condition.mk = _ ∧ _ ↔ _
  rw [Json.pruneMembers_eq]
  match only : Json.withoutNulls members with
  | [] =>
      constructor
      · rintro ⟨⟨⟩, _⟩
        exact .empty only
      · rintro (_ | ⟨lone, _⟩)
        · exact ⟨rfl, nofun⟩
        · rw [only] at lone
          cases lone
  | [(key, value)] =>
      rw [only] at kept
      obtain ⟨valueKeyed, present⟩ := List.forall_mem_singleton.mp kept
      constructor
      · rintro ⟨read, scalar⟩
        obtain ⟨bounds, found⟩ := exists_ok_of_map read
        have named : key = "range" := eq_range_of_readRangeMember found _ List.mem_cons_self
        subst named
        rw [List.map_singleton, readRangeMember_single,
          readOptionalBounds_of_present (Json.prune_ne_null present)] at read
        obtain ⟨bounds, rfl, bounded⟩ := map_some_iff.mp ⟨read, scalar⟩
        obtain ⟨inner, rfl, written⟩ := (readBounds_prune_iff valueKeyed).mp bounded
        exact .range only written
      · rintro (nothing | ⟨lone, written⟩)
        · rw [only] at nothing
          cases nothing
        · rw [only] at lone
          cases lone
          rw [List.map_singleton, readRangeMember_single,
            readOptionalBounds_of_present (Json.prune_ne_null present)]
          refine map_some_iff.mpr ⟨_, rfl, ?_⟩
          exact (readBounds_prune_iff valueKeyed).mpr ⟨_, rfl, written⟩
  | (key, value) :: (other, another) :: rest =>
      constructor
      · rintro ⟨read, _⟩
        obtain ⟨bounds, found⟩ := exists_ok_of_map read
        have ranges := eq_range_of_readRangeMember found
        have first : key = "range" := ranges _ List.mem_cons_self
        have second : other = "range" := ranges _ (List.mem_cons_of_mem _ List.mem_cons_self)
        -- The two keys are the same, although they are distinct.
        rw [only, first, second] at distinct
        simp at distinct
      · rintro (nothing | ⟨lone, _⟩)
        · rw [only] at nothing
          cases nothing
        · rw [only] at lone
          cases lone

/-- A condition is read from an array exactly as it is written. Its items are not pruned. -/
theorem readCondition_array_iff {items : List Json} (keyed : (Json.array items).Keyed)
    {condition : Condition} :
    readCondition (.array items) = .ok condition ∧ ScalarCondition condition ↔
      ConditionWritten condition (.array items) := by
  match items with
  | [] =>
      constructor
      · rintro ⟨⟨⟩, _⟩
        exact .emptyList
      · rintro ⟨⟩
        exact ⟨rfl, nofun⟩
  | [.null] =>
      constructor
      · rintro ⟨⟨⟩, _⟩
        exact .nullListed
      · rintro ⟨⟩
        exact ⟨rfl, nofun⟩
  | [.object inner] =>
      obtain ⟨distinct, _⟩ := Json.Keyed.object_iff.mp (Json.Keyed.array_iff.mp keyed _ List.mem_cons_self)
      refine map_some_iff.trans ⟨?_, ?_⟩
      · rintro ⟨bounds, rfl, bounded⟩
        exact .rangeListed ((readBounds_iff distinct).mp bounded)
      · rintro ⟨⟩
        rename_i bounds written
        exact ⟨bounds, rfl, (readBounds_iff distinct).mpr written⟩
  | [.bool _] | [.number _] | [.string _] | [.array _] =>
      constructor
      · rintro ⟨⟨⟩, _⟩
      · rintro ⟨⟩
  | first :: second :: rest =>
      constructor
      · rintro ⟨read, _⟩
        obtain ⟨_, _, refused⟩ := Json.exists_ok_of_bind read
        cases refused
      · rintro ⟨⟩

/-- A condition is read exactly as it is written. -/
theorem readCondition_iff {value : Json} (keyed : value.Keyed) {condition : Condition} :
    readCondition value.prune = .ok condition ∧ ScalarCondition condition ↔
      ConditionWritten condition value := by
  cases value with
  | object members => exact readCondition_object_iff keyed
  | array items => exact readCondition_array_iff keyed
  | _ =>
      constructor
      · rintro ⟨⟨⟩, _⟩
      · rintro ⟨⟩

/-- Conditions are read exactly as they are written. -/
theorem readConditions_iff {value : Json} (keyed : value.Keyed)
    {conditions : OrderedMap String Condition} :
    readConditions value.prune = .ok conditions ∧ ScalarConditions conditions ↔
      ConditionsWritten conditions value := by
  have reads : ∀ (member : String × Json) (field : String) (condition : Condition),
      (do .ok (member.1, ← readCondition member.2)) = Except.ok (field, condition) ↔
        field = member.1 ∧ readCondition member.2 = .ok condition := by
    intro member field condition
    cases readCondition member.2 with
    | error fault => exact ⟨nofun, fun ⟨_, refused⟩ => nomatch refused⟩
    | ok read =>
        constructor
        · rintro ⟨⟩
          exact ⟨rfl, rfl⟩
        · rintro ⟨rfl, ⟨⟩⟩
          rfl
  refine readPruned_iff (fun entry => do .ok (entry.1, ← readCondition entry.2)) ScalarCondition
    keyed (fun member field condition read => ((reads _ _ _).mp read).1) ?_
  intro field member condition memberKeyed _
  rw [reads, and_assoc, readCondition_iff memberKeyed]

/-- A filter is read exactly as it is written. -/
theorem readClauses_iff {value : Json} (keyed : value.Keyed) {filter : Filter} :
    readClauses value.prune = .ok filter ∧
        (∀ entry ∈ filter.entries, ScalarConditions entry.2) ↔
      filter.Written value := by
  have reads : ∀ (member : String × Json) (clause : Clause)
      (conditions : OrderedMap String Condition),
      (do
          let clause ← readClause member.1
          .ok (clause, ← readConditions member.2)) = Except.ok (clause, conditions) ↔
        clause.name = member.1 ∧ readConditions member.2 = .ok conditions := by
    intro member clause conditions
    rw [← readClause_eq_ok_iff]
    constructor
    · intro read
      obtain ⟨_, named, read⟩ := Json.exists_ok_of_bind read
      obtain ⟨_, done, made⟩ := Json.exists_ok_of_bind read
      cases made
      exact ⟨named, done⟩
    · rintro ⟨named, done⟩
      rw [named, done]
      rfl
  refine readPruned_iff (fun entry => do
      let clause ← readClause entry.1
      .ok (clause, ← readConditions entry.2))
    ScalarConditions keyed (fun member clause conditions read => ((reads _ _ _).mp read).1) ?_
  intro clause member conditions memberKeyed _
  rw [reads, and_assoc, readConditions_iff memberKeyed]

/-- A filter that is present is read exactly as it is written. -/
theorem readPresent_iff {value : Json} (keyed : value.Keyed) {filter : Filter} :
    readPresent value = .ok filter ↔ filter.Written value := by
  rw [← readClauses_iff keyed, ← scalarFault?_eq_none_iff]
  constructor
  · intro read
    obtain ⟨found, done, checked⟩ := Json.exists_ok_of_bind read
    split at checked
    · cases checked
    · rename_i scalar
      cases checked
      exact ⟨done, scalar⟩
  · rintro ⟨done, scalar⟩
    simp only [readPresent, done, bind, Except.bind, scalar]

/-- An array that lists just a range, or `null`, or nothing. Nothing within it may be `null`. -/
inductive IsListedCondition : Json → Prop where
  | empty : IsListedCondition (.array [])
  | null : IsListedCondition (.array [.null])
  | range {inner : List (String × Json)}
      (bounded : ∀ bound ∈ inner, (∃ op : RangeOp, op.name = bound.1) ∧ bound.2.isScalar = true) :
      IsListedCondition (.array [.object inner])

/-- Clauses with conditions by field, each an object with a range or an array that lists it. -/
def InGrammar : Json → Prop :=
  Json.IsObjectOf fun key conditions => (∃ clause : Clause, clause.name = key) ∧
    Json.IsObjectOf (fun _ condition => IsCondition condition ∨ IsListedCondition condition)
      conditions

/-- Some bounds are written as members exactly if these are scalars under operators. -/
theorem exists_boundsWritten_iff {members : List (String × Json)}
    (distinct : (members.map Prod.fst).Nodup) :
    (∃ bounds, BoundsWritten bounds members) ↔
      ∀ bound ∈ members, (∃ op : RangeOp, op.name = bound.1) ∧ bound.2.isScalar = true := by
  refine (exists_writtenAs_iff distinct).trans ?_
  simp

/-- Some bounds are written as an object exactly if it is one of scalars under operators. -/
theorem exists_rangeWritten_iff {inner : List (String × Json)}
    (keyed : (Json.object inner).Keyed) :
    (∃ bounds, BoundsWritten bounds (Json.withoutNulls inner)) ↔ IsBounds (.object inner) := by
  obtain ⟨distinct, _⟩ := Json.Keyed.object_iff.mp keyed
  rw [exists_boundsWritten_iff (Json.nodup_withoutNulls distinct), IsBounds,
    Json.isObjectOf_iff distinct]

/-- Some condition is written as a value exactly if it is an object with a range, or an array
that lists it. -/
theorem exists_conditionWritten_iff {value : Json} (keyed : value.Keyed) :
    (∃ condition, ConditionWritten condition value) ↔
      IsCondition value ∨ IsListedCondition value := by
  constructor
  · rintro ⟨_, written⟩
    cases written with
    | empty nothing =>
        obtain ⟨distinct, _⟩ := Json.Keyed.object_iff.mp keyed
        refine .inl ((Json.isObjectOf_iff distinct).mpr ?_)
        rw [nothing]
        exact nofun
    | @range members inner bounds only written =>
        obtain ⟨distinct, inside⟩ := Json.Keyed.object_iff.mp keyed
        have listed : ("range", Json.object inner) ∈ Json.withoutNulls members := by
          rw [only]
          exact List.mem_cons_self
        have innerKeyed := inside _ (Json.mem_withoutNulls_iff.mp listed).1
        refine .inl ((Json.isObjectOf_iff distinct).mpr ?_)
        rw [only, List.forall_mem_singleton]
        exact ⟨rfl, (exists_rangeWritten_iff innerKeyed).mp ⟨bounds, written⟩⟩
    | emptyList => exact .inr .empty
    | nullListed => exact .inr .null
    | rangeListed written =>
        have innerKeyed := Json.Keyed.array_iff.mp keyed _ List.mem_cons_self
        obtain ⟨distinct, _⟩ := Json.Keyed.object_iff.mp innerKeyed
        exact .inr (.range ((exists_boundsWritten_iff distinct).mp ⟨_, written⟩))
  · rintro (shaped | listed)
    · obtain ⟨condition, read, represented⟩ := exists_readCondition shaped
      exact ⟨condition, (readCondition_iff keyed).mp ⟨read, scalar_of_represents represented⟩⟩
    · cases listed with
      | empty => exact ⟨_, .emptyList⟩
      | null => exact ⟨_, .nullListed⟩
      | range bounded =>
          obtain ⟨distinct, _⟩ := Json.Keyed.object_iff.mp (Json.Keyed.array_iff.mp keyed _ List.mem_cons_self)
          obtain ⟨bounds, written⟩ := (exists_boundsWritten_iff distinct).mpr bounded
          exact ⟨_, .rangeListed written⟩

/-- Some filter is written as a value exactly if it is in the grammar. -/
theorem exists_written_iff {value : Json} (keyed : value.Keyed) :
    (∃ filter : Filter, filter.Written value) ↔ InGrammar value := by
  refine (exists_writtenObject_iff keyed).trans ?_
  refine Json.IsObjectOf.congr keyed fun key conditions conditionsKeyed => and_congr_right ?_
  refine fun _ => (exists_writtenObject_iff conditionsKeyed).trans ?_
  refine Json.IsObjectOf.congr conditionsKeyed fun field condition conditionKeyed => ?_
  rw [and_iff_right ⟨field, rfl⟩]
  exact exists_conditionWritten_iff conditionKeyed

end Filter

namespace Arguments

variable {arguments : Fields} {value : Json}

/-- What is given for the filter is read, and the argument is blamed for its faults. -/
theorem filter_of_given (given : arguments.find? "boolean_query" = some value)
    (present : value ≠ .null) :
    filter arguments = ((Filter.readPresent value).map some).mapError FilterFault.error := by
  rw [filter, given]
  cases value <;> first | rfl | exact absurd rfl present

/-- A filter is what is read from the value that is given for it. -/
theorem filter_eq_some_iff (given : arguments.find? "boolean_query" = some value)
    (present : value ≠ .null) {found : Filter} :
    filter arguments = .ok (some found) ↔ Filter.readPresent value = .ok found := by
  rw [filter_of_given given present]
  cases Filter.readPresent value with
  | error fault => exact ⟨nofun, nofun⟩
  | ok read =>
      constructor
      · rintro ⟨⟩
        rfl
      · rintro ⟨⟩
        rfl

/-- There is no filter exactly if none is given, or `null`. -/
theorem filter_eq_none_iff :
    filter arguments = .ok none ↔
      arguments.find? "boolean_query" = none ∨ arguments.find? "boolean_query" = some .null := by
  constructor
  · intro none
    cases given : arguments.find? "boolean_query" with
    | none => exact .inl rfl
    | some value =>
        by_cases absent : value = .null
        · exact .inr (congrArg some absent)
        · rw [filter_of_given given absent] at none
          cases read : Filter.readPresent value <;> rw [read] at none <;> cases none
  · rintro (absent | null)
    · rw [filter, absent]
      rfl
    · rw [filter, null]
      rfl

/-- Filters are read by their grammar. Nothing is read from an argument exactly if it is absent
or `null`. Any other value in which no object has a key twice is read as the filter that it is
written for, with the clauses, fields, operators and bounds of the value in their order and no
others; there is one exactly if the value is in the grammar, and else the value is refused and
the argument is blamed. Values that are read from text have no repeated keys
(`Json.keyed_of_read`). -/
theorem filters_are_read_by_their_grammar (arguments : Fields) :
    (filter arguments = .ok none ↔
      arguments.find? "boolean_query" = none ∨ arguments.find? "boolean_query" = some .null) ∧
    ∀ value, arguments.find? "boolean_query" = some value → value ≠ .null → value.Keyed →
      (∀ found : Filter, filter arguments = .ok (some found) ↔ found.Written value) ∧
      ((∃ found, filter arguments = .ok (some found)) ↔ Filter.InGrammar value) ∧
      (¬ Filter.InGrammar value → ∃ text,
        filter arguments = .error (.of (.invalidArgument "boolean_query" text))) := by
  refine ⟨filter_eq_none_iff, fun value given present keyed => ?_⟩
  have written : ∀ found : Filter,
      filter arguments = .ok (some found) ↔ found.Written value := fun found =>
    (filter_eq_some_iff given present).trans (Filter.readPresent_iff keyed)
  have accepted : (∃ found, filter arguments = .ok (some found)) ↔ Filter.InGrammar value :=
    (exists_congr written).trans (Filter.exists_written_iff keyed)
  refine ⟨written, accepted, fun outside => ?_⟩
  rw [← accepted] at outside
  cases read : Filter.readPresent value with
  | ok found => exact absurd ⟨found, (filter_eq_some_iff given present).mpr read⟩ outside
  | error fault =>
      rw [filter_of_given given present, read]
      exact ⟨fault.message, rfl⟩

/-- A range may be given within an object or within an array; only in the object may a bound be
`null`. -/
theorem null_is_skipped_outside_arrays :
    Filter.InGrammar (.object
      [("must", .object [("price", .object [("range", .object
          [("gte", .ofNat 10), ("lt", .null)])]), ("stock", .array [.object
          [("lte", .ofNat 5)]]), ("state", .array [.null])]), ("should", .null)]) ∧
    ¬ Filter.InGrammar (.object
      [("must", .object [("price", .array [.object [("gte", .ofNat 10), ("lt", .null)]])])]) := by
  have reading (members : List (String × Json)) :=
    (filters_are_read_by_their_grammar
      ⟨[("boolean_query", .object members)], List.nodup_singleton _⟩).2 (.object members) rfl
  constructor
  · refine (reading _ (by simp) ?_).2.1.mp ⟨_, rfl⟩
    simp [Json.Keyed.object_iff, Json.Keyed.array_iff, Json.Keyed.null, Json.Keyed.number,
      Json.ofNat]
  · rw [← (reading _ (by simp) ?_).2.1]
    · rintro ⟨_, ⟨⟩⟩
    · simp [Json.Keyed.object_iff, Json.Keyed.array_iff, Json.Keyed.null, Json.Keyed.number,
        Json.ofNat]

end Arguments

end DocQuery
