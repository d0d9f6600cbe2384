import DocQuery.Proofs.Schema.FilterInputs

/-!
# What the names of generated types tell

The types of a collection are named after their roles, and a name tells the role
(`TypeRole.ending_injective`). So what is found under a name has the role that the name is
made for (`hasRole_of_name`), whatever the fields of the collection are called. Only the roles
of conditions and bounds may belong to several types, where fields share an identifier.
-/

namespace DocQuery.Compile

variable {config : Config} {storeName : String} {mapping : CollectionMapping}
  {role : TypeRole} {type : TypeDef}

/-- The level of filters that a role is about, if it is about filters. -/
def TypeRole.level? : TypeRole → Option FilterLevel
  | .document | .aggregations | .kind _ => none
  | .filter => some .filter
  | .clause combining => some (.clause combining)
  | .term _ => some .condition
  | .range _ => some .bounds

/-- How the names of the types of a level end, or else the names of types for output. -/
def levelEnding : Option FilterLevel → String
  | none => "_document"
  | some level => level.ending

theorem TypeRole.exists_ending_eq (role : TypeRole) :
    ∃ front, role.ending = front ++ levelEnding role.level? := by
  cases role with
  | document => exact ⟨"", rfl⟩
  | filter => exact ⟨"", rfl⟩
  | clause combining => exact ⟨"", String.empty_append.symm⟩
  | term field => exact ⟨"_" ++ field, rfl⟩
  | range field => exact ⟨"_" ++ field, rfl⟩
  | aggregations => exact ⟨"_aggregation", rfl⟩
  | kind computing =>
      refine ⟨"_" ++ computing.name ++ "_aggregation", ?_⟩
      cases computing <;> rfl

/-- No name is for output and for a level of filters. -/
theorem document_apart (level : FilterLevel) :
    ¬(level.ending.toList <:+ "_document".toList ∨ "_document".toList <:+ level.ending.toList) := by
  have apart : ∀ level ∈ FilterLevel.all,
      ¬(level.ending.toList <:+ "_document".toList ∨
        "_document".toList <:+ level.ending.toList) := by decide
  exact apart level level.mem_all

/-- A name tells which level of filters it is for, if any. -/
theorem level_eq_of_append_eq {front other : String} {level otherLevel : Option FilterLevel}
    (same : front ++ levelEnding level = other ++ levelEnding otherLevel) : level = otherLevel := by
  cases level with
  | none =>
      cases otherLevel with
      | none => rfl
      | some otherLevel =>
          exact absurd (endings_of_append_eq same).symm (document_apart otherLevel)
  | some level =>
      cases otherLevel with
      | none => exact absurd (endings_of_append_eq same) (document_apart level)
      | some otherLevel => exact congrArg some (FilterLevel.eq_of_append_eq same)

/-- The roles of types for output. -/
def outputRoles : List TypeRole := .document :: .aggregations :: AggregationKind.all.map .kind

theorem TypeRole.mem_outputRoles (output : role.level? = none) : role ∈ outputRoles := by
  cases role with
  | document => decide
  | aggregations => decide
  | kind computing => cases computing <;> decide
  | _ => cases output

/-- The ending of a name tells the role. -/
theorem TypeRole.ending_injective : Function.Injective TypeRole.ending := by
  intro role other same
  have level : role.level? = other.level? := by
    obtain ⟨front, spelt⟩ := role.exists_ending_eq
    obtain ⟨otherFront, otherSpelt⟩ := other.exists_ending_eq
    exact level_eq_of_append_eq (spelt.symm.trans (same.trans otherSpelt))
  cases known : role.level? with
  | none =>
      have apart : ∀ role ∈ outputRoles, ∀ other ∈ outputRoles,
          role.ending = other.ending → role = other := by decide
      exact apart _ (mem_outputRoles known) _ (mem_outputRoles (level ▸ known)) same
  | some _ =>
      -- Only conditions and bounds have roles of one level, told apart by the field.
      cases role with
      | document | aggregations | kind _ => cases known
      | filter => cases other <;> cases level; rfl
      | clause combining => cases other <;> cases level; rfl
      | term field =>
          cases other <;> cases level
          rw [ending, ending, String.append_left_inj, String.append_right_inj] at same
          rw [same]
      | range field =>
          cases other <;> cases level
          rw [ending, ending, String.append_left_inj, String.append_right_inj] at same
          rw [same]

/-- The name of a type tells the role that the type has. -/
theorem HasRole.role_eq {identifier : String} {fields : List DocumentField}
    (has : HasRole identifier fields role type) {other : TypeRole}
    (named : type.name = identifier ++ other.ending) : role = other :=
  TypeRole.ending_injective ((String.append_right_inj identifier).mp (has.name_eq.symm.trans named))

/-- The types of bounds on fields of an identifier are those of the fields with it. -/
theorem HasRole.exists_rangeType {identifier name : String} {fields : List DocumentField}
    (has : HasRole identifier fields (.range name) type) :
    ∃ field ∈ fields, field.identifier = name ∧ type = .input (rangeType identifier field) := by
  cases has with
  | @range field retained => exact ⟨field, retained, rfl, rfl⟩

/-- The shared type is not named after a role. -/
theorem pairName_ne_append_ending (identifier : String) (role : TypeRole) :
    pairName ≠ identifier ++ role.ending := by
  have apart : ∀ level ∈ none :: FilterLevel.all.map some,
      ¬((levelEnding level).toList <:+ pairName.toList ∨
        pairName.toList <:+ (levelEnding level).toList) := by decide
  have listed : role.level? ∈ none :: FilterLevel.all.map some := by
    cases role.level? with
    | none => exact List.mem_cons_self
    | some level => exact List.mem_cons_of_mem _ (List.mem_map_of_mem level.mem_all)
  obtain ⟨front, spelt⟩ := role.exists_ending_eq
  intro same
  rw [spelt, ← String.append_assoc, ← String.empty_append (s := pairName)] at same
  exact apart _ listed (endings_of_append_eq same.symm)

/-- A type of a collection whose name is made for a role has this role. -/
theorem hasRole_of_name (member : type ∈ (contribute config storeName mapping).types)
    (named : type.name = Names.normalize storeName ++ role.ending) :
    HasRole (Names.normalize storeName) (retainedFields config mapping) role type := by
  rcases exists_hasRole_of_mem_types member with rfl | ⟨own, has⟩
  · exact absurd named (pairName_ne_append_ending _ role)
  · exact has.role_eq named ▸ has

end DocQuery.Compile
