import DocQuery.Compile.Assembly
import DocQuery.Proofs.Calendar.ReadInstants
import DocQuery.Proofs.Request.Requested
import DocQuery.Session.Resolve

/-!
# What aggregations come to

The results of aggregations are listed by kind and by field, as the types generated for
the collection have it, whatever the store answers. `AggregationKind.Admits` says what a
value has to be under a kind over a field of a scalar, by the type that the schema gives.

Metrics do not live up to that everywhere. Booleans and texts are measured by numbers,
and a date in a year without four digits is written with a sign. With
`Scalar.measured` for the scalar, and such dates apart, every value is as it has to be:
`aggregations_have_measured_types`.
-/

namespace DocQuery

/-- What a value has to be in the place of a scalar. -/
def Scalar.Admits : Scalar → Json → Prop
  | .boolean, value => ∃ truth, value = .bool truth
  | .dateTime, value => ∃ text, value = .string text ∧ IsRfc3339 text
  | .float, value => ∃ x, value = .number (.float x)
  | .int, value => ∃ n, value = .number (.int n)
  | .id, value | .string, value => ∃ text, value = .string text

/-- The scalar in which metrics measure: a number, unless dates are measured. -/
def Scalar.measured : Scalar → Scalar
  | .boolean | .float | .id | .string => .float
  | .int => .int
  | .dateTime => .dateTime

namespace Json

/-- A number, or `null` for none. -/
def IsOptionalNumber (value : Json) : Prop := value = .null ∨ ∃ number, value = .number number

/-- An object with exactly the members `key` and `value`, each a number or `null`. -/
def IsPair (pair : Json) : Prop :=
  ∃ key value : Json, pair = .object [("key", key), ("value", value)] ∧
    key.IsOptionalNumber ∧ value.IsOptionalNumber

/-- A floating-point number that is not finite is `null`. -/
theorem ofFloat_eq (x : Float) :
    ofFloat x = .null ∨ ofFloat x = .number (.float x) := by
  rw [ofFloat]
  split
  · exact .inr rfl
  · exact .inl rfl

theorem isOptionalNumber_ofFloat (x : Float) : (ofFloat x).IsOptionalNumber :=
  (ofFloat_eq x).imp_right fun number => ⟨_, number⟩

end Json

namespace AggregationKind

/-- Whether the result is a single number in the type of the field. -/
def isMetric : AggregationKind → Bool
  | .min | .max | .avg | .sum => true
  | .cardinality | .percentiles => false

/-- What a value other than `null` has to be under a kind, over a field of a scalar. -/
def Admits (kind : AggregationKind) (scalar : Scalar) (value : Json) : Prop :=
  match kind with
  | .cardinality => ∃ n, value = .ofNat n
  | .percentiles => ∃ pairs, value = .array pairs ∧ ∀ pair ∈ pairs, pair.IsPair
  | .min | .max | .avg | .sum => scalar.Admits value

/-- What a value other than `null` is: what it has to be in the scalar that metrics
measure in, or else a metric that is a date in a year without four digits. -/
def Yields (kind : AggregationKind) (scalar : Scalar) (value : Json) : Prop :=
  kind.Admits scalar.measured value ∨
    kind.isMetric = true ∧ scalar = .dateTime ∧ ∃ instant : Instant,
      value = .string instant.text ∧ ¬(0 ≤ instant.date.year ∧ instant.date.year ≤ 9999)

end AggregationKind

namespace Aggregation

variable {entry : List (String × Json)} {scalar : Scalar} {value : Json}

/-- A date that a metric gives is bounded. -/
theorem bounded_of_written {number : Float} {instant : Instant}
    (written : ((Entries.find? "value_as_string" entry).bind Instant.ofJson? <|>
      Instant.ofMilliseconds? (wholePart number)) = some instant) : instant.Bounded := by
  rw [Option.orElse_eq_orElse, Option.orElse_eq_or, Option.or_eq_some_iff] at written
  rcases written with text | ⟨_, milliseconds⟩
  · obtain ⟨_, _, read⟩ := Option.bind_eq_some_iff.mp text
    exact (Instant.regular_of_ofJson? read).bounded
  · exact (Instant.regular_of_ofMilliseconds? milliseconds).bounded

/-- A metric is `null`, in the scalar that metrics measure in, or a date in a year
without four digits. -/
theorem metric?_yields {kind : AggregationKind} (metric : kind.isMetric = true)
    (computed : metric? entry scalar = some value) :
    value = .null ∨ kind.Yields scalar value := by
  have admits : ∀ scalar value, Scalar.Admits scalar value → kind.Admits scalar value := by
    intro scalar value holds
    cases kind with
    | min | max | avg | sum => exact holds
    | cardinality | percentiles => cases metric
  have float : ∀ number : Float, Json.ofFloat number = .null ∨
      kind.Admits .float (Json.ofFloat number) :=
    fun number => (Json.ofFloat_eq number).imp_right fun same => admits _ _ ⟨number, same⟩
  simp only [metric?, Option.bind_eq_bind, Option.bind_eq_some_iff] at computed
  obtain ⟨given, _, read⟩ := computed
  split at read
  · exact .inl (Option.some.inj read).symm
  · obtain ⟨number, _, made⟩ := Option.bind_eq_some_iff.mp read
    cases scalar with
    | dateTime =>
        obtain ⟨instant, written, text⟩ := Option.bind_eq_some_iff.mp made
        obtain rfl := Option.some.inj text
        have bounded := bounded_of_written written
        by_cases year : 0 ≤ instant.date.year ∧ instant.date.year ≤ 9999
        · exact .inr (.inl (admits _ _ ⟨_, rfl, Instant.isRfc3339_text bounded year⟩))
        · exact .inr (.inr ⟨metric, rfl, instant, rfl, year⟩)
    | int =>
        obtain rfl := Option.some.inj made
        split
        · exact .inr (.inl (admits _ _ ⟨_, rfl⟩))
        · rename_i infinite
          refine .inl ?_
          rw [Json.ofFloat, if_neg infinite]
    | boolean | float | id | string =>
        obtain rfl := Option.some.inj made
        exact (float number).imp_right .inl

/-- A count is a whole number that is not negative. -/
theorem count?_admits {given : Json} (computed : count? given = some value) :
    ∃ n, value = .ofNat n := by
  rw [count?] at computed
  split at computed
  · exact ⟨_, (Option.some.inj computed).symm⟩
  · obtain ⟨number, _, made⟩ := Option.bind_eq_some_iff.mp computed
    split at made
    · exact ⟨_, (Option.some.inj made).symm⟩
    · cases made

/-- A percentile with its value is a pair. -/
theorem isPair_pair (key : Float) (value : Option Json) : (pair key value).IsPair := by
  refine ⟨_, _, rfl, Json.isOptionalNumber_ofFloat key, ?_⟩
  cases value.bind Json.asFloat? with
  | none => exact .inl rfl
  | some x => exact Json.isOptionalNumber_ofFloat x

/-- Where every item that is read is a pair, so is every item of the list. -/
theorem forall_isPair_of_mapM {ι : Type} {read : ι → Option Json}
    (pairs : ∀ item result, read item = some result → result.IsPair) {items : List ι}
    {results : List Json} (computed : items.mapM read = some results) :
    ∀ result ∈ results, result.IsPair := by
  induction items generalizing results with
  | nil =>
      obtain rfl := Option.some.inj computed
      simp
  | cons head rest ih =>
      simp only [List.mapM_cons, Option.bind_eq_bind, Option.bind_eq_some_iff,
        Option.pure_def] at computed
      obtain ⟨first, firstRead, others, othersRead, made⟩ := computed
      obtain rfl := Option.some.inj made
      intro result member
      rcases List.mem_cons.mp member with rfl | later
      · exact pairs head _ firstRead
      · exact ih othersRead result later

/-- Percentiles are a list of pairs. -/
theorem percentiles?_admits {given : Json} (computed : percentiles? given = some value) :
    ∃ pairs, value = .array pairs ∧ ∀ pair ∈ pairs, pair.IsPair := by
  rw [percentiles?.eq_def] at computed
  split at computed
  · obtain ⟨pairs, read, made⟩ := Option.bind_eq_some_iff.mp computed
    obtain rfl := Option.some.inj made
    refine ⟨pairs, rfl, forall_isPair_of_mapM ?_ read⟩
    intro item result itemRead
    simp only [Option.bind_eq_bind, Option.bind_eq_some_iff] at itemRead
    obtain ⟨_, _, key, _, same⟩ := itemRead
    rw [← Option.some.inj same]
    exact isPair_pair key _
  · obtain ⟨pairs, read, made⟩ := Option.bind_eq_some_iff.mp computed
    obtain rfl := Option.some.inj made
    refine ⟨pairs, rfl, forall_isPair_of_mapM ?_ read⟩
    intro member result memberRead
    obtain ⟨key, _, same⟩ := Option.bind_eq_some_iff.mp memberRead
    rw [← Option.some.inj same]
    exact isPair_pair key _
  · cases computed

/-- The value of an entry is `null` or what its kind yields over the field. -/
theorem value?_yields {kind : AggregationKind}
    (computed : value? kind scalar entry = some value) :
    value = .null ∨ kind.Yields scalar value := by
  cases kind with
  | percentiles =>
      obtain ⟨_, _, read⟩ := Option.bind_eq_some_iff.mp computed
      exact .inr (.inl (percentiles?_admits read))
  | cardinality =>
      obtain ⟨_, _, read⟩ := Option.bind_eq_some_iff.mp computed
      exact .inr (.inl (count?_admits read))
  | min | max | avg | sum => exact metric?_yields rfl computed

/-- A value that was computed is `null` or what its kind yields over the field. -/
theorem yields_of_outcome {results : Fields} {kind : AggregationKind} {field : DocumentField}
    (computed : (outcome results kind field).value? = some value) :
    value = .null ∨ kind.Yields field.scalar value := by
  rw [outcome] at computed
  split at computed
  · rename_i entry _
    cases read : value? kind field.scalar entry with
    | none => simp [read, Outcome.value?] at computed
    | some given =>
        simp only [read, Outcome.value?, Option.some.injEq] at computed
        subst computed
        exact value?_yields read
  · cases computed

end Aggregation

namespace Compile

/-- A result lists by kind, and below each kind by fields of the type generated for it,
values that are `null` or fit the kind and the scalar of the field. -/
def Contribution.Reports (contribution : Contribution)
    (fits : AggregationKind → Scalar → Json → Prop) (result : Json) : Prop :=
  ∃ kinds : List (AggregationKind × List (String × Json)),
    result = .object (kinds.map fun entry => (entry.1.name, .object entry.2)) ∧
    ∀ entry ∈ kinds, ∀ member ∈ entry.2, ∃ field output,
      fieldNamed? contribution.fields member.1 = some field ∧
      (kindType contribution.identifier contribution.fields entry.1).field? member.1 =
        some output ∧
      output.type = resultType entry.1 field.scalar ∧
      (member.2 = .null ∨ fits entry.1 field.scalar member.2)

/-- Whatever the results of the search are, what is read from them is a report of what
kinds yield. -/
theorem Contribution.reports_read (contribution : Contribution) (selection : SelectionSet)
    (results : Fields) :
    contribution.Reports AggregationKind.Yields
      ((Requested.ofSelection contribution.target selection).read results) := by
  let fields := Requested.fieldsUnder contribution.target selection
  refine ⟨selection.kinds.map fun kind =>
    (kind, (Requested.kindResults results kind (fields kind)).entries), ?_, ?_⟩
  · rw [Requested.read, Requested.ofSelection_eq, List.map_map, List.map_map]
    rfl
  · intro entry listed member below
    obtain ⟨kind, _, rfl⟩ := List.mem_map.mp listed
    obtain ⟨field, fieldAsked, read⟩ :=
      List.mem_filterMap.mp (OrderedMap.mem_of_mem_ofList below)
    obtain ⟨value, computed, rfl⟩ := Option.map_eq_some_iff.mp read
    obtain ⟨name, found⟩ := Requested.exists_field?_of_mem_fieldsUnder fieldAsked
    rw [field?_target] at found
    have own : fieldNamed? contribution.fields field.identifier = some field := by
      rw [(mem_of_fieldNamed? found).2, found]
    refine ⟨field, .of field.identifier (resultType kind field.scalar), own, ?_, rfl, ?_⟩
    · rw [field?_kindType, own]
      rfl
    · exact Aggregation.yields_of_outcome computed

end Compile

/-- The value that a call leads to is read from an answer of the store. -/
theorem Progress.read_of_ofDelivery {config : Config} {registry : Registry}
    {resolver : Resolver} {operation : Operation} {reading : Reading} {delivery : Delivery}
    {value : Json}
    (answered : (ofDelivery config registry resolver operation reading delivery).result =
      .ok value) :
    ∃ response logged, reading.read registry resolver.target response = .ok logged ∧
      logged.value = value := by
  rw [result_ofDelivery] at answered
  cases answer : delivery.answer operation with
  | error error =>
      rw [answer] at answered
      cases answered
  | ok response =>
      rw [answer] at answered
      change ((reading.read registry resolver.target response).map Logged.value).mapError _ = _
        at answered
      cases read : reading.read registry resolver.target response with
      | error error =>
          rw [read] at answered
          cases answered
      | ok logged =>
          rw [read] at answered
          exact ⟨response, logged, read, Except.ok.inj answered⟩

/-- The value of a root field that aggregates is read from some results. -/
theorem Request.read_of_run {config : Config} {registry : Registry} {schema : Schema}
    {store : ScriptedStore} {request : Request} {target : Target} {value : Json}
    (own : schema.resolver request.field = .ok ⟨.aggregations, target⟩)
    (answered : (request.run config registry schema store).1.result = .ok value) :
    ∃ results, value = (Requested.ofSelection target request.selection).read results := by
  simp only [Request.run, Request.intent, own] at answered
  cases filterRead : Arguments.filter request.arguments with
  | error error =>
      simp only [Resolver.plan, Resolver.aggregationsPlan, filterRead] at answered
      cases answered
  | ok filter =>
      rw [Resolver.plan_aggregations filterRead] at answered
      by_cases nothing :
          (Requested.ofSelection target request.selection).entries.isEmpty = true
      · rw [if_pos nothing] at answered
        exact ⟨.empty, (Except.ok.inj answered).symm⟩
      · rw [if_neg nothing] at answered
        obtain ⟨response, logged, read, rfl⟩ := Progress.read_of_ofDelivery answered
        cases response with
        | hits found => exact ⟨found.aggregations, (congrArg Logged.value (Except.ok.inj read)).symm⟩
        | mappings metadata => cases read
        | document hit => cases read

/-- Whatever the store answers, the aggregations of a collection are listed by kind and by
fields of the type generated for the kind, and every value is `null` or what the kind
yields over the field. -/
theorem Request.aggregations_have_measured_types {config : Config} {registry : Registry}
    {schema : Schema} {store : ScriptedStore} {request : Request}
    {contribution : Compile.Contribution} {value : Json}
    (own : schema.resolver request.field = .ok ⟨.aggregations, contribution.target⟩)
    (answered : (request.run config registry schema store).1.result = .ok value) :
    contribution.Reports AggregationKind.Yields value := by
  obtain ⟨results, rfl⟩ := read_of_run own answered
  exact contribution.reports_read request.selection results

section Users

/-- A collection with a field of booleans. -/
def users : Compile.Contribution := Compile.contribute {} "users" [("active", .leaf "boolean")]

/-- The least value of this field. -/
def leastActive : Request := ⟨"users_aggregations", .empty, [⟨"min", [.leaf "active"]⟩], none⟩

/-- A store that answers with a boolean, as a number and as a text. -/
def truthfulStore : ScriptedStore :=
  ⟨.empty, [.answers (.hits ⟨[], .ofList [("min_active", .object
    [("value", .number (.float 1)), ("value_as_string", .string "true")])]⟩)]⟩

/-- The schema of the collection has its aggregations. -/
theorem exists_schema_of_users : ∃ schema, Compile.assemble [users] = .ok schema ∧
    schema.resolver leastActive.field = .ok ⟨.aggregations, users.target⟩ := by
  cases assembled : Compile.assemble [users] with
  | error error =>
      have nothing := (Compile.assemble_eq_error_iff.mp assembled).1
      have sorted := (Compile.inOrder_perm [users]).mem_iff.mpr (List.mem_singleton.mpr rfl)
      exact absurd (List.flatMap_eq_nil_iff.mp nothing _ sorted)
        (Compile.rootFields_contribute_ne_nil _ _)
  | ok schema =>
      have own : Compile.aggregationsField users.target ∈ users.rootFields := by decide
      have sole : ∀ other ∈ [users], ∀ field ∈ other.rootFields,
          field.name = (Compile.aggregationsField users.target).name →
            field = Compile.aggregationsField users.target := by decide
      have found : schema.field? leastActive.field =
          some (Compile.aggregationsField users.target) :=
        Compile.field?_of_sole_name assembled (List.mem_singleton.mpr rfl) own sole
      refine ⟨schema, rfl, ?_⟩
      rw [Schema.resolver, found]
      rfl

/-- The store's boolean is read as a number. -/
theorem result_of_leastActive {schema : Schema}
    (own : schema.resolver leastActive.field = .ok ⟨.aggregations, users.target⟩) :
    (leastActive.run {} .empty schema truthfulStore).1.result =
      .ok (.object [("min", .object [("active", .number (.float 1))])]) := by
  simp only [Request.run, Request.intent, own]
  decide +kernel

/-- With booleans the results are in the types that metrics measure in. -/
theorem aggregations_of_users_have_measured_types :
    ∃ schema, Compile.assemble [users] = .ok schema ∧
      ∃ value, (leastActive.run {} .empty schema truthfulStore).1.result = .ok value ∧
        users.Reports AggregationKind.Yields value := by
  obtain ⟨schema, assembled, own⟩ := exists_schema_of_users
  have answered := result_of_leastActive own
  exact ⟨schema, assembled, _, answered, Request.aggregations_have_measured_types own answered⟩

/-- With booleans the results are not in the types that the schema gives. -/
theorem aggregations_of_users_not_in_declared_types :
    ∃ schema, Compile.assemble [users] = .ok schema ∧
      ∃ value, (leastActive.run {} .empty schema truthfulStore).1.result = .ok value ∧
        ¬ users.Reports AggregationKind.Admits value := by
  obtain ⟨schema, assembled, own⟩ := exists_schema_of_users
  refine ⟨schema, assembled, _, result_of_leastActive own, ?_⟩
  rintro ⟨kinds, listed, fits⟩
  obtain ⟨⟨kind, members⟩, rest, rfl⟩ : ∃ entry rest, kinds = entry :: rest := by
    cases kinds with
    | nil => simp at listed
    | cons entry rest => exact ⟨entry, rest, rfl⟩
  simp only [List.map_cons, Json.object.injEq, List.cons.injEq, Prod.mk.injEq] at listed
  obtain ⟨⟨named, rfl⟩, _⟩ := listed
  obtain ⟨field, _, found, _, _, value⟩ :=
    fits _ List.mem_cons_self ("active", .number (.float 1)) List.mem_cons_self
  have boolean : field.scalar = .boolean := by
    have same : some field = Compile.fieldNamed? users.fields "active" := found.symm
    have scalar := congrArg (Option.map DocumentField.scalar) same
    exact Option.some.inj (scalar.trans (by decide))
  have minimum : kind = .min := by
    cases kind with
    | min => rfl
    | max | avg | sum | cardinality | percentiles => exact absurd named (by decide)
  rcases value with none | admitted
  · cases none
  · rw [minimum] at admitted
    change Scalar.Admits field.scalar _ at admitted
    rw [boolean] at admitted
    obtain ⟨truth, same⟩ := admitted
    cases same

end Users

end DocQuery
