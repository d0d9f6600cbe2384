import DocQuery.Proofs.Schema.BuiltSchemas

/-!
# What a filter argument may be

A value conforms to the type of an argument as the schema has it. For filters the types
found in the schema need not be those of one collection: merging may replace them by types
of others. But the name of a type tells which level of a filter it is for
(`FilterLevel.eq_of_append_eq`), and types of one level declare the same sort of members
whatever collection they come from (`Compile.declares_of_input?`).
-/

namespace DocQuery

/-- A value conforms to a type: an optional value may be `null`, a scalar is written as a
boolean, a number or a string, and an object has no members but those that the input type
of the schema declares, each at most once. -/
inductive Schema.Conforms (schema : Schema) : TypeRef → Json → Prop
  | null {type : TypeRef} (optional : type.isNonNull = false) : Conforms schema type .null
  | scalar {leaf : Scalar} {value : Json} (written : value.isScalar = true) :
      Conforms schema (.scalar leaf) value
  | input {name : String} {input : InputType} {members : List (String × Json)}
      (found : schema.input? name = some input) (distinct : (members.map Prod.fst).Nodup)
      (declared : ∀ entry ∈ members, (input.field? entry.1).isSome)
      (conform : ∀ entry ∈ members, ∀ argument, input.field? entry.1 = some argument →
        Conforms schema argument.type entry.2) :
      Conforms schema (.named name) (.object members)
  | list {item : TypeRef} {items : List Json} (each : ∀ value ∈ items, Conforms schema item value) :
      Conforms schema (.list item) (.array items)
  | nonNull {inner : TypeRef} {value : Json} (present : value ≠ .null)
      (conforms : Conforms schema inner value) : Conforms schema (.nonNull inner) value

/-- An object conforms to an input type if each of its members conforms to what is declared
for it. -/
theorem Schema.Conforms.of_members {schema : Schema} {name : String} {input : InputType}
    {members : List (String × Json)} (found : schema.input? name = some input)
    (distinct : (members.map Prod.fst).Nodup)
    (conform : ∀ entry ∈ members, ∃ argument, input.field? entry.1 = some argument ∧
      schema.Conforms argument.type entry.2) :
    schema.Conforms (.named name) (.object members) := by
  refine .input found distinct ?_ ?_
  · intro entry member
    obtain ⟨argument, known, _⟩ := conform entry member
    rw [known]
    rfl
  · intro entry member argument known
    obtain ⟨other, otherKnown, conforms⟩ := conform entry member
    rw [Option.some.inj (known.symm.trans otherKnown)]
    exact conforms

/-- The levels of a filter, from the argument down to the bounds. -/
inductive FilterLevel where
  | filter
  | clause (combining : Clause)
  | condition
  | bounds
  deriving DecidableEq

namespace FilterLevel

/-- Every level. -/
def all : List FilterLevel := [.filter, .condition, .bounds] ++ Clause.all.map clause

/-- How the names of the types of a level end. -/
def ending : FilterLevel → String
  | .filter => "_boolean_args"
  | .clause combining => "_boolean_args_" ++ combining.name
  | .condition => "_term_level_args"
  | .bounds => "_range_args"

/-- What the types of a level declare: members of the next level, and under which keys. -/
def Declares : FilterLevel → Argument → Prop
  | .filter, argument => ∃ combining front, argument.name = combining.name ∧
      argument.type = .named (front ++ ending (.clause combining))
  | .clause _, argument => ∃ front, argument.type = .named (front ++ ending .condition)
  | .condition, argument => argument.name = "range" ∧
      ∃ front, argument.type = .named (front ++ ending .bounds)
  | .bounds, argument => ∃ (op : RangeOp) (leaf : Scalar), argument.name = op.name ∧
      argument.type = .scalar leaf

theorem mem_all (level : FilterLevel) : level ∈ all := by
  cases level with
  | clause combining => cases combining <;> decide
  | _ => decide

/-- The name of a type tells its level. -/
theorem eq_of_append_eq {front other : String} {level otherLevel : FilterLevel}
    (same : front ++ level.ending = other ++ otherLevel.ending) : level = otherLevel := by
  have apart : ∀ level ∈ all, ∀ other ∈ all,
      level.ending.toList <:+ other.ending.toList ∨ other.ending.toList <:+ level.ending.toList →
        level = other := by decide
  exact apart _ (mem_all _) _ (mem_all _) (Compile.endings_of_append_eq same)

end FilterLevel

namespace Compile

/-- Every type behind a filter argument is of the level that its name tells, and declares
the members of this level. -/
theorem declares_of_mem_filterTypes {identifier : String} {fields : List DocumentField}
    {type : InputType} (member : type ∈ (filterTypes identifier fields).all) :
    ∃ (level : FilterLevel) (front : String), type.name = front ++ level.ending ∧
      type.fields.Indexes Argument.name level.Declares := by
  simp only [FilterTypes.all, filterTypes, List.mem_cons, List.mem_append, List.mem_map,
    List.mem_flatMap, List.not_mem_nil, or_false] at member
  rcases member with rfl | ⟨combining, _, rfl⟩ | ⟨field, _, rfl | rfl⟩
  · refine ⟨.filter, identifier, ?_, InputType.indexes_of_pushAll ?_⟩
    · rw [name_pushAll_input]
      rfl
    · intro entry listed
      obtain ⟨combining, _, rfl⟩ := List.mem_map.mp listed
      refine ⟨combining, identifier, rfl, ?_⟩
      simp only [clauseName, filterName, FilterLevel.ending, String.append_assoc]
      rfl
  · refine ⟨.clause combining, identifier, ?_, InputType.indexes_of_pushAll ?_⟩
    · rw [clauseType, name_pushAll_input]
      simp only [InputType.of, clauseName, filterName, FilterLevel.ending, String.append_assoc]
      rfl
    · intro entry listed
      obtain ⟨field, _, rfl⟩ := List.mem_map.mp listed
      exact ⟨identifier ++ "_" ++ field.identifier, rfl⟩
  · refine ⟨.condition, identifier ++ "_" ++ field.identifier, rfl, ?_⟩
    have declared : ∀ entry ∈ [("range", TypeRef.named (rangeName identifier field.identifier))],
        FilterLevel.condition.Declares ⟨entry.1, entry.2⟩ := by
      intro entry listed
      rw [List.mem_singleton.mp listed]
      exact ⟨rfl, identifier ++ "_" ++ field.identifier, rfl⟩
    exact InputType.indexes_of_pushAll declared
  · refine ⟨.bounds, identifier ++ "_" ++ field.identifier, ?_, InputType.indexes_of_pushAll ?_⟩
    · rw [rangeType, name_pushAll_input]
      rfl
    · intro entry listed
      obtain ⟨op, _, rfl⟩ := List.mem_map.mp listed
      exact ⟨op, field.scalar, rfl, rfl⟩

/-- The input type that a schema has under a name declares the members of the level that
the name tells, whichever collection it comes from. -/
theorem declares_of_input? {config : Config} {compiled : List Contribution} {schema : Schema}
    (generated : ∀ contribution ∈ compiled, ∃ storeName mapping,
      contribution = contribute config storeName mapping)
    (assembled : assemble compiled = .ok schema) {front : String} {level : FilterLevel}
    {input : InputType} (found : schema.input? (front ++ level.ending) = some input)
    {key : String} {argument : Argument} (declared : input.field? key = some argument) :
    argument.name = key ∧ level.Declares argument := by
  obtain ⟨named, owner, owning, own⟩ :=
    (indexes_types assembled).of_find? (Schema.input?_eq_some_iff.mp found)
  obtain ⟨_, _, rfl⟩ := generated _ owning
  obtain ⟨_, listed, rfl⟩ : ∃ other ∈ (filterTypes _ _).all, input = other := by
    rcases mem_types_iff.mp own with document | ⟨_, other, listed, same⟩ |
      ⟨_, _, ⟨_, _, object⟩ | object⟩
    · cases document
    · exact ⟨other, listed, TypeDef.input.inj same⟩
    · cases object
    · cases object
  obtain ⟨ownLevel, ownFront, ownNamed, declares⟩ := declares_of_mem_filterTypes listed
  obtain rfl := FilterLevel.eq_of_append_eq (named.symm.trans ownNamed)
  exact declares.of_find? declared

end Compile

end DocQuery
