import DocQuery.Proofs.Request.FilterMeaning

/-!
# Reading filters of the right shape

A filter is an object of clauses, a clause an object of fields, a field an object with a
range, and a range an object of operators with scalar bounds; at each level `null` counts
as absent. `Filter.exists_read` says that such a filter is read, and
`Filter.bound?_of_represents` that it has, under every clause, field and operator, the
bound that is written there.
-/

namespace DocQuery

namespace Json

/-- The member of an object under a key. A member that is `null` counts as absent. -/
def given? (value : Json) (key : String) : Option Json :=
  (value.get? key).filter fun member => !member.isNull

/-- What is found in objects within objects, one key after another. -/
def givenAt? (value : Json) : List String → Option Json
  | [] => some value
  | key :: keys => (value.given? key).bind fun member => member.givenAt? keys

/-- An object without repeated keys whose members are allowed, or `null`. -/
def IsObjectOf (allowed : String → Json → Prop) (value : Json) : Prop :=
  ∃ members, value = .object members ∧ (members.map Prod.fst).Nodup ∧
    ∀ entry ∈ members, entry.2 = .null ∨ allowed entry.1 entry.2

/-- What is no key of an object is not found in it. -/
theorem given?_of_fresh {key : String} {members : List (String × Json)}
    (fresh : key ∉ members.map Prod.fst) : given? (.object members) key = none := by
  have unbound : Entries.find? key members = none := by
    rwa [← Option.not_isSome_iff_eq_none, Entries.find?_isSome_iff]
  simp [given?, get?, unbound]

/-- A first member that is `null` counts as absent. -/
theorem given?_cons_null (key other : String) (rest : List (String × Json))
    (fresh : key ∉ rest.map Prod.fst) :
    given? (.object ((key, .null) :: rest)) other = given? (.object rest) other := by
  by_cases same : key = other
  · subst same
    rw [given?_of_fresh fresh]
    simp [given?, get?, Entries.find?, isNull]
  · simp [given?, get?, Entries.find?, same]

/-- Any other first member is found under its key, and no other member is. -/
theorem given?_cons {key : String} {member : Json} (present : member ≠ .null) (other : String)
    (rest : List (String × Json)) :
    given? (.object ((key, member) :: rest)) other =
      if key = other then some member else given? (.object rest) other := by
  by_cases same : key = other
  · have notNull : member.isNull = false := by
      cases member <;> first | rfl | exact absurd rfl present
    simp [given?, get?, Entries.find?, same, notNull]
  · simp [given?, get?, Entries.find?, same]

/-- Pruning drops a first member that is `null`. -/
theorem pruneMembers_cons_null (key : String) (rest : List (String × Json)) :
    pruneMembers ((key, .null) :: rest) = pruneMembers rest := by
  rw [pruneMembers]
  rfl

/-- Pruning keeps any other first member, itself pruned. -/
theorem pruneMembers_cons {key : String} {member : Json} (present : member ≠ .null)
    (rest : List (String × Json)) :
    pruneMembers ((key, member) :: rest) = (key, member.prune) :: pruneMembers rest := by
  rw [pruneMembers]
  cases member <;> first | rfl | exact absurd rfl present

/-- What is no object is not changed by pruning. -/
theorem prune_of_isScalar {value : Json} (scalar : value.isScalar = true) :
    value.prune = value := by
  cases value <;> first | rfl | cases scalar

end Json

/-- A map represents an object: it has a value for a key exactly if the object has a member
under the name of the key, and the value represents the member. -/
def OrderedMap.Represents {κ ν : Type} [DecidableEq κ] (map : OrderedMap κ ν) (name : κ → String)
    (represents : ν → Json → Prop) (value : Json) : Prop :=
  ∀ key, Option.Rel represents (map.find? key) (value.given? (name key))

/-- What is there is related to something that is there. -/
theorem exists_of_rel {α β : Type} {related : α → β → Prop} {a : α} {right : Option β}
    (relation : Option.Rel related (some a) right) : ∃ b, related a b := by
  cases relation with
  | some holds => exact ⟨_, holds⟩

/-- What related options lead to is the same, if it is the same for related values. -/
theorem bind_eq_of_rel {α β γ : Type} {related : α → β → Prop} {left : Option α}
    {right : Option β} {first : α → Option γ} {second : β → Option γ}
    (relation : Option.Rel related left right) (agree : ∀ a b, related a b → first a = second b) :
    left.bind first = right.bind second := by
  cases relation with
  | none => rfl
  | some holds => exact agree _ _ holds

/-- Every value of a map that represents an object represents a member. -/
theorem OrderedMap.Represents.exists_of_mem {κ ν : Type} [DecidableEq κ] {map : OrderedMap κ ν}
    {name : κ → String} {represents : ν → Json → Prop} {value : Json}
    (represented : map.Represents name represents value) {entry : κ × ν}
    (member : entry ∈ map.entries) : ∃ other, represents entry.2 other := by
  have related := represented entry.1
  rw [OrderedMap.find?_eq_some_iff_mem.mpr member] at related
  exact exists_of_rel related

namespace Filter

/-- Bounds represent an object of operators if they have its members, which are scalars. -/
def RepresentsBounds (bounds : OrderedMap RangeOp Json) (value : Json) : Prop :=
  bounds.Represents RangeOp.name
    (fun bound member => bound = member ∧ member.isScalar = true) value

/-- A condition represents an object if its bounds represent the range. -/
def RepresentsCondition (condition : Condition) (value : Json) : Prop :=
  Option.Rel RepresentsBounds condition.bounds (value.given? "range")

/-- Conditions represent an object of fields. -/
def RepresentsConditions (conditions : OrderedMap String Condition) (value : Json) : Prop :=
  conditions.Represents id RepresentsCondition value

/-- A filter represents an object of clauses. -/
def Represents (filter : Filter) (value : Json) : Prop :=
  OrderedMap.Represents filter Clause.name RepresentsConditions value

/-- Bounds by operator: scalars, or `null`. -/
def IsBounds : Json → Prop :=
  Json.IsObjectOf fun key bound => (∃ op : RangeOp, op.name = key) ∧ bound.isScalar = true

/-- An object with a range. -/
def IsCondition : Json → Prop :=
  Json.IsObjectOf fun key bounds => key = "range" ∧ IsBounds bounds

/-- Conditions by field. -/
def IsConditions : Json → Prop :=
  Json.IsObjectOf fun _ condition => IsCondition condition

/-- Conditions by clause and by field. -/
def IsFilter : Json → Prop :=
  Json.IsObjectOf fun key conditions =>
    (∃ clause : Clause, clause.name = key) ∧ IsConditions conditions

/-- An operator is read from its name. -/
theorem readOp_name (op : RangeOp) : readOp op.name = .ok op := by
  cases op <;> rfl

/-- A clause is read from its name. -/
theorem readClause_name (clause : Clause) : readClause clause.name = .ok clause := by
  cases clause <;> rfl

/-- If every allowed member is read as a binding of its key, the members of an object are
read as bindings of a map that represents the object. -/
theorem exists_read_members {κ ν : Type} [DecidableEq κ] {name : κ → String}
    {represents : ν → Json → Prop} {allowed : String → Json → Prop}
    (read : String × Json → Except FilterFault (κ × ν)) (injective : Function.Injective name)
    (reads : ∀ key member, allowed key member → ∃ named value,
      read (key, member.prune) = .ok (named, value) ∧ name named = key ∧ represents value member)
    {members : List (String × Json)} (distinct : (members.map Prod.fst).Nodup)
    (shaped : ∀ entry ∈ members, entry.2 = .null ∨ allowed entry.1 entry.2) :
    ∃ bindings, (Json.pruneMembers members).mapM read = .ok bindings ∧
      (OrderedMap.ofList bindings).Represents name represents (.object members) := by
  induction members with
  | nil => exact ⟨[], rfl, fun _ => .none⟩
  | cons head rest ih =>
      obtain ⟨key, member⟩ := head
      rw [List.map_cons, List.nodup_cons] at distinct
      rw [List.forall_mem_cons] at shaped
      obtain ⟨bindings, done, represented⟩ := ih distinct.2 shaped.2
      by_cases present : member = .null
      · subst present
        refine ⟨bindings, by rw [Json.pruneMembers_cons_null, done], ?_⟩
        intro named
        rw [Json.given?_cons_null key _ rest distinct.1]
        exact represented named
      · obtain ⟨named, value, first, rfl, holds⟩ :=
          reads key member (shaped.1.resolve_left present)
        refine ⟨(named, value) :: bindings, ?_, ?_⟩
        · rw [Json.pruneMembers_cons present, List.mapM_cons, first, done]
          rfl
        · -- No later member has the key, so the binding is not replaced.
          have absent : (OrderedMap.ofList bindings).find? named = none := by
            have later := represented named
            rw [Json.given?_of_fresh distinct.1] at later
            cases found : (OrderedMap.ofList bindings).find? named with
            | none => rfl
            | some other =>
                rw [found] at later
                cases later
          intro other
          rw [Json.given?_cons present, OrderedMap.find?_ofList, Entries.findLast?,
            ← OrderedMap.find?_ofList]
          by_cases same : named = other
          · subst same
            rw [absent, if_pos rfl, if_pos rfl]
            exact .some holds
          · rw [if_neg same, if_neg fun equal => same (injective equal), Option.or_none]
            exact represented other

/-- If every allowed member is read as a binding of its key, an object of allowed members is
read as a map that represents it. -/
theorem exists_read_object {κ ν : Type} [DecidableEq κ] {name : κ → String}
    {represents : ν → Json → Prop} {allowed : String → Json → Prop}
    (read : String × Json → Except FilterFault (κ × ν)) (injective : Function.Injective name)
    (reads : ∀ key member, allowed key member → ∃ named value,
      read (key, member.prune) = .ok (named, value) ∧ name named = key ∧ represents value member)
    {value : Json} (shaped : value.IsObjectOf allowed) :
    ∃ map : OrderedMap κ ν,
      (do
        let members ← membersOf value.prune
        let bindings ← members.mapM read
        .ok (.ofList bindings)) = Except.ok map ∧
      map.Represents name represents value := by
  obtain ⟨members, rfl, distinct, allowed⟩ := shaped
  obtain ⟨bindings, done, represented⟩ :=
    exists_read_members read injective reads distinct allowed
  refine ⟨.ofList bindings, ?_, represented⟩
  show ((Json.pruneMembers members).mapM read >>= fun bindings =>
    Except.ok (OrderedMap.ofList bindings)) = _
  rw [done]
  rfl

/-- Bounds of the right shape are read. -/
theorem exists_readBounds {value : Json} (shaped : IsBounds value) :
    ∃ bounds, readBounds value.prune = .ok bounds ∧ RepresentsBounds bounds value := by
  have injective : Function.Injective RangeOp.name := by
    intro op other same
    cases op <;> cases other <;> first | rfl | exact absurd same (by decide)
  have reads : ∀ (key : String) (bound : Json),
      (∃ op : RangeOp, op.name = key) ∧ bound.isScalar = true →
        ∃ op read, (do .ok (← readOp key, bound.prune)) = Except.ok (op, read) ∧
          op.name = key ∧ read = bound ∧ bound.isScalar = true := by
    rintro _ bound ⟨⟨op, rfl⟩, scalar⟩
    refine ⟨op, bound, ?_, rfl, rfl, scalar⟩
    rw [Json.prune_of_isScalar scalar, readOp_name]
    rfl
  exact exists_read_object (fun entry => do .ok (← readOp entry.1, entry.2)) injective reads shaped

/-- A condition of the right shape is read. -/
theorem exists_readCondition {value : Json} (shaped : IsCondition value) :
    ∃ condition, readCondition value.prune = .ok condition ∧
      RepresentsCondition condition value := by
  obtain ⟨members, rfl, distinct, allowed⟩ := shaped
  obtain ⟨bounds, done, represented⟩ : ∃ bounds,
      readRangeMember (Json.pruneMembers members) = .ok bounds ∧
        Option.Rel RepresentsBounds bounds (Json.given? (.object members) "range") := by
    induction members with
    | nil => exact ⟨none, rfl, .none⟩
    | cons head rest ih =>
        obtain ⟨key, member⟩ := head
        rw [List.map_cons, List.nodup_cons] at distinct
        rw [List.forall_mem_cons] at allowed
        obtain ⟨later, done, represented⟩ := ih distinct.2 allowed.2
        by_cases present : member = .null
        · subst present
          rw [Json.pruneMembers_cons_null, Json.given?_cons_null key _ rest distinct.1]
          exact ⟨later, done, represented⟩
        · obtain ⟨rfl, bounded⟩ := allowed.1.resolve_left present
          obtain ⟨bounds, read, holds⟩ := exists_readBounds bounded
          rw [Json.given?_of_fresh distinct.1] at represented
          cases represented
          rw [Json.pruneMembers_cons present, Json.given?_cons present, if_pos rfl]
          refine ⟨some bounds, ?_, .some holds⟩
          obtain ⟨members, rfl, _⟩ := bounded
          rw [readRangeMember, if_pos rfl, done]
          show ((readBounds (Json.object members).prune).map some >>= fun bounds => _) = _
          rw [read]
          rfl
  refine ⟨⟨bounds⟩, ?_, represented⟩
  show (readRangeMember (Json.pruneMembers members)).map Condition.mk = _
  rw [done]
  rfl

/-- Conditions of the right shape are read. -/
theorem exists_readConditions {value : Json} (shaped : IsConditions value) :
    ∃ conditions, readConditions value.prune = .ok conditions ∧
      RepresentsConditions conditions value := by
  have reads : ∀ (key : String) (member : Json), IsCondition member → ∃ field condition,
      (do .ok (key, ← readCondition member.prune)) = Except.ok (field, condition) ∧
        id field = key ∧ RepresentsCondition condition member := by
    intro key member conditional
    obtain ⟨condition, read, holds⟩ := exists_readCondition conditional
    refine ⟨key, condition, ?_, rfl, holds⟩
    rw [read]
    rfl
  exact exists_read_object (fun entry => do .ok (entry.1, ← readCondition entry.2))
    Function.injective_id reads shaped

/-- Clauses of the right shape are read. -/
theorem exists_readClauses {value : Json} (shaped : IsFilter value) :
    ∃ filter, readClauses value.prune = .ok filter ∧ Represents filter value := by
  have injective : Function.Injective Clause.name := by
    intro clause other same
    cases clause <;> cases other <;> first | rfl | exact absurd same (by decide)
  have reads : ∀ (key : String) (member : Json),
      (∃ clause : Clause, clause.name = key) ∧ IsConditions member → ∃ clause conditions,
        (do
          let clause ← readClause key
          .ok (clause, ← readConditions member.prune)) = Except.ok (clause, conditions) ∧
        clause.name = key ∧ RepresentsConditions conditions member := by
    rintro _ member ⟨⟨clause, rfl⟩, conditional⟩
    obtain ⟨conditions, read, holds⟩ := exists_readConditions conditional
    refine ⟨clause, conditions, ?_, rfl, holds⟩
    rw [readClause_name, read]
    rfl
  exact exists_read_object (fun entry => do
    let clause ← readClause entry.1
    .ok (clause, ← readConditions entry.2)) injective reads shaped

/-- The bound of a filter under a clause, on a field and with an operator. -/
def bound? (filter : Filter) (clause : Clause) (field : String) (op : RangeOp) : Option Json :=
  (filter.find? clause).bind fun conditions => (conditions.find? field).bind fun condition =>
    condition.bounds.bind fun bounds => bounds.find? op

/-- A filter that represents an object has the bounds that are written there. -/
theorem bound?_of_represents {filter : Filter} {value : Json}
    (represented : Represents filter value) (clause : Clause) (field : String) (op : RangeOp) :
    filter.bound? clause field op =
      value.givenAt? [clause.name, field, "range", op.name] := by
  refine bind_eq_of_rel (represented clause) fun conditions object represented => ?_
  refine bind_eq_of_rel (represented field) fun condition object represented => ?_
  refine bind_eq_of_rel represented fun bounds object represented => ?_
  rw [← Option.bind_fun_some (bounds.find? op)]
  exact bind_eq_of_rel (represented op) fun bound member same => congrArg some same.1

/-- All bounds of a map are booleans, numbers or strings. -/
def ScalarBounds (bounds : OrderedMap RangeOp Json) : Prop :=
  ∀ entry ∈ bounds.entries, entry.2.isScalar = true

/-- A condition has such bounds, if any. -/
def ScalarCondition (condition : Condition) : Prop :=
  ∀ bounds, condition.bounds = some bounds → ScalarBounds bounds

/-- All conditions of a map have such bounds, if any. -/
def ScalarConditions (conditions : OrderedMap String Condition) : Prop :=
  ∀ entry ∈ conditions.entries, ScalarCondition entry.2

/-- No bound is at fault exactly if all conditions have scalar bounds. -/
theorem scalarFault?_eq_none_iff {filter : Filter} :
    filter.scalarFault? = none ↔ ∀ entry ∈ filter.entries, ScalarConditions entry.2 := by
  rw [scalarFault?, Option.map_eq_none_iff, List.find?_eq_none]
  constructor
  · rintro none ⟨clause, conditions⟩ listed ⟨field, ⟨_⟩⟩ demanded bounds ⟨⟩ ⟨op, bound⟩ bounded
    have member : (clause, field, op, bound) ∈ filter.bounds := by
      refine List.mem_flatMap.mpr ⟨_, listed, List.mem_flatMap.mpr ⟨_, demanded, ?_⟩⟩
      exact List.mem_map.mpr ⟨_, bounded, rfl⟩
    have kept := none _ member
    simpa using kept
  · intro scalar entry member
    obtain ⟨⟨clause, conditions⟩, listed, member⟩ := List.mem_flatMap.mp member
    obtain ⟨⟨field, ⟨bounds⟩⟩, demanded, member⟩ := List.mem_flatMap.mp member
    obtain ⟨⟨op, bound⟩, bounded, rfl⟩ := List.mem_map.mp member
    cases bounds with
    | none => cases bounded
    | some bounds => simpa using scalar _ listed _ demanded bounds rfl _ bounded

/-- A condition that represents an object has scalar bounds only. -/
theorem scalar_of_represents {condition : Condition} {value : Json}
    (represented : RepresentsCondition condition value) : ScalarCondition condition := by
  rintro bounds given ⟨op, bound⟩ bounded
  rw [RepresentsCondition, given] at represented
  obtain ⟨_, operated⟩ := exists_of_rel represented
  obtain ⟨_, rfl, scalar⟩ := OrderedMap.Represents.exists_of_mem operated bounded
  exact scalar

/-- A filter that represents an object has scalar bounds only. -/
theorem scalarFault?_of_represents {filter : Filter} {value : Json}
    (represented : Represents filter value) : filter.scalarFault? = none := by
  rw [scalarFault?_eq_none_iff]
  intro entry listed other demanded
  obtain ⟨_, conditional⟩ := represented.exists_of_mem listed
  obtain ⟨_, ranged⟩ := OrderedMap.Represents.exists_of_mem conditional demanded
  exact scalar_of_represents ranged

/-- A filter of the right shape is read, and represents what is written. -/
theorem exists_read {value : Json} (shaped : IsFilter value) :
    ∃ filter, read (some value) = .ok (some filter) ∧ Represents filter value := by
  obtain ⟨filter, done, represented⟩ := exists_readClauses shaped
  have present : readPresent value = .ok filter := by
    simp only [readPresent, done, bind, Except.bind, scalarFault?_of_represents represented]
  obtain ⟨members, rfl, _⟩ := shaped
  refine ⟨filter, ?_, represented⟩
  show (readPresent (.object members)).map some = _
  rw [present]
  rfl

/-- The terms of a filter are made of its bounds. -/
theorem exists_term_iff {filter : Filter} {clause : Clause} {name : String} {op : RangeOp}
    {bound : Json} :
    (∃ term ∈ filter.terms clause, term.name = name ∧ term.bounds.find? op = some bound) ↔
      filter.bound? clause name op = some bound := by
  simp only [mem_terms_iff, bound?, Option.bind_eq_some_iff]
  constructor
  · rintro ⟨term, ⟨conditions, found, demanded, _⟩, rfl, bounded⟩
    exact ⟨conditions, found, _, demanded, term.bounds, rfl, bounded⟩
  · rintro ⟨conditions, found, ⟨_⟩, demanded, bounds, rfl, bounded⟩
    have inhabited : bounds.isEmpty = false := by
      rw [OrderedMap.find?_eq_some_iff_mem] at bounded
      exact List.isEmpty_eq_false_iff.mpr (List.ne_nil_of_mem bounded)
    exact ⟨⟨name, bounds⟩, ⟨conditions, found, demanded, inhabited⟩, rfl, bounded⟩

end Filter

end DocQuery
