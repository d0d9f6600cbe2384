import DocQuery.Proofs.Schema.Legible
import DocQuery.Schema.Sdl
import DocQuery.Text.Blank

/-!
# The lines of a schema text

The text of a legible schema falls into lines in the expected way, since no name in it
breaks a line. Hence the date scalar is declared exactly if the schema mentions it.
-/

namespace DocQuery

namespace Text

/-- A text that is no line break and has none inside. -/
def Unbroken (text : String) : Prop := '\n' ∉ text.toList

instance : DecidablePred Unbroken := fun text => inferInstanceAs (Decidable ('\n' ∉ text.toList))

theorem Unbroken.append {text more : String} (unbroken : Unbroken text)
    (moreUnbroken : Unbroken more) : Unbroken (text ++ more) := by
  unfold Unbroken at *
  rw [String.toList_append, List.mem_append, not_or]
  exact ⟨unbroken, moreUnbroken⟩

/-- Unbroken texts with an unbroken separator make an unbroken text. -/
theorem unbroken_intercalate {separator : String} {texts : List String}
    (separates : Unbroken separator) (unbroken : ∀ text ∈ texts, Unbroken text) :
    Unbroken (separator.intercalate texts) := by
  induction texts with
  | nil => exact List.not_mem_nil
  | cons head rest ih =>
      have first := unbroken head List.mem_cons_self
      have others := ih fun text member => unbroken text (List.mem_cons_of_mem _ member)
      cases rest with
      | nil => simpa using first
      | cons next rest =>
          rw [String.intercalate_cons_cons]
          exact (first.append separates).append others

/-- Identifiers do not break a line. -/
theorem unbroken_of_isIdentifier {text : String} (identifier : Names.IsIdentifier text) :
    Unbroken text := by
  intro member
  exact absurd (identifier.isWord _ member) (by decide)

/-- Lines that are ended one by one are read back, before an empty one. -/
theorem split_ended {lines : List String} (unbroken : ∀ line ∈ lines, Unbroken line) :
    split '\n' (String.join (lines.map (· ++ "\n"))) = lines ++ [""] := by
  rw [split, String.toList_join]
  induction lines with
  | nil => rfl
  | cons head rest ih =>
      have first : ∀ c ∈ head.toList, (c == '\n') = false := by
        intro c member
        rw [beq_eq_false_iff_ne]
        rintro rfl
        exact unbroken head List.mem_cons_self member
      have others := ih fun line member => unbroken line (List.mem_cons_of_mem _ member)
      rw [List.splitOn] at others ⊢
      have ended : ((head :: rest).map (· ++ "\n")).flatMap String.toList =
          head.toList ++ '\n' :: (rest.map (· ++ "\n")).flatMap String.toList := by
        simp
      rw [ended]
      rw [List.splitOnP_append_cons_of_forall_mem first _ rfl, List.map_cons, others,
        String.ofList_toList, List.cons_append]

/-- A text that starts otherwise is another text. -/
theorem append_ne {start text : String} (otherwise : ¬ start.toList <+: text.toList)
    (rest : String) : start ++ rest ≠ text := by
  rintro rfl
  rw [String.toList_append] at otherwise
  exact otherwise (List.prefix_append _ _)

/-- Texts that start otherwise than each other are different. -/
theorem append_ne_append {start other : String}
    (otherwise : ¬ start.toList <+: other.toList ∧ ¬ other.toList <+: start.toList)
    (rest otherRest : String) : start ++ rest ≠ other ++ otherRest := by
  intro same
  rw [← String.toList_inj, String.toList_append, String.toList_append] at same
  have first := List.prefix_append start.toList rest.toList
  have second := List.prefix_append other.toList otherRest.toList
  rw [same] at first
  exact (List.prefix_or_prefix_of_prefix first second).elim otherwise.1 otherwise.2

end Text

/-- The lines of a block. -/
def blockLines (heading : String) (lines : List String) : List String :=
  (heading ++ " \x7b") :: (lines.map ("  " ++ ·) ++ ["\x7d"])

/-- A block is its lines. -/
theorem blockText_eq (heading : String) (lines : List String) :
    blockText heading lines = String.join ((blockLines heading lines).map (· ++ "\n")) := by
  simp only [blockText, blockLines, List.map_cons, List.map_append, List.map_map, List.map_nil,
    String.join_cons, String.join_append, String.join_nil, String.append_empty]
  simp only [String.append_assoc, Function.comp_def]
  rfl

/-- A block of unbroken lines has unbroken lines. -/
theorem unbroken_of_mem_blockLines {heading : String} {lines : List String}
    (head : Text.Unbroken heading) (unbroken : ∀ line ∈ lines, Text.Unbroken line) :
    ∀ line ∈ blockLines heading lines, Text.Unbroken line := by
  intro line member
  simp only [blockLines, List.mem_cons, List.mem_append, List.mem_map, List.not_mem_nil,
    or_false] at member
  rcases member with rfl | ⟨inner, listed, rfl⟩ | rfl
  · exact head.append (by decide)
  · have indented : Text.Unbroken "  " := by decide
    exact indented.append (unbroken inner listed)
  · decide

/-- A block does not have the line that declares the date scalar, unless as its heading. -/
theorem scalar_not_mem_blockLines {heading : String} {lines : List String}
    (otherwise : ∀ rest, heading ++ rest ≠ "scalar DateTime") :
    "scalar DateTime" ∉ blockLines heading lines := by
  intro member
  simp only [blockLines, List.mem_cons, List.mem_append, List.mem_map, List.not_mem_nil,
    or_false] at member
  rcases member with head | ⟨inner, _, indented⟩ | closing
  · exact otherwise _ head.symm
  · exact Text.append_ne (by decide) inner indented
  · exact absurd closing (by decide)

/-- The lines of a generated type. -/
def TypeDef.lines : TypeDef → List String
  | .object type => blockLines ("type " ++ type.name) (type.fields.values.map Field.text)
  | .input type => blockLines ("input " ++ type.name) (type.fields.values.map Argument.text)

/-- The text of a type is its lines. -/
theorem TypeDef.text_eq (type : TypeDef) :
    type.text = String.join (type.lines.map (· ++ "\n")) := by
  cases type <;> exact blockText_eq _ _

/-- A type does not have the line that declares the date scalar. -/
theorem TypeDef.scalar_not_mem_lines (type : TypeDef) : "scalar DateTime" ∉ type.lines := by
  cases type <;>
    exact scalar_not_mem_blockLines fun rest => by
      rw [String.append_assoc]
      exact Text.append_ne (by decide) _

/-- A reference does not break a line if the name in it does not. -/
theorem TypeRef.unbroken_text {type : TypeRef}
    (named : ∀ name, type.named? = some name → Text.Unbroken name) : Text.Unbroken type.text := by
  induction type with
  | scalar leaf => cases leaf <;> decide
  | named name => exact named name rfl
  | list item ih =>
      have opening : Text.Unbroken "[" := by decide
      exact (opening.append (ih named)).append (by decide)
  | nonNull inner ih => exact (ih named).append (by decide)

theorem Argument.WellFormed.unbroken_text {argument : Argument}
    (formed : argument.WellFormed .legible) : Text.Unbroken argument.text := by
  have name := Text.unbroken_of_isIdentifier formed.identifier
  refine (name.append (by decide)).append (TypeRef.unbroken_text ?_)
  intro typeName named
  exact Text.unbroken_of_isIdentifier (formed.refers typeName named).identifier

theorem Field.WellFormed.unbroken_text {field : Field}
    (formed : field.WellFormed .legible) : Text.Unbroken field.text := by
  have arguments : Text.Unbroken field.argumentsText := by
    rw [Field.argumentsText]
    split
    · decide
    · have opening : Text.Unbroken "(" := by decide
      refine (opening.append (Text.unbroken_intercalate (by decide) ?_)).append (by decide)
      intro text member
      obtain ⟨argument, listed, rfl⟩ := List.mem_map.mp member
      exact (formed.arguments.of_mem_values listed).unbroken_text
  have name := Text.unbroken_of_isIdentifier formed.identifier
  refine ((name.append arguments).append (by decide)).append (TypeRef.unbroken_text ?_)
  intro typeName named
  exact Text.unbroken_of_isIdentifier (formed.refers typeName named).identifier

/-- The lines of a legible type do not break. -/
theorem TypeDef.Legible.unbroken_of_mem_lines {type : TypeDef} (legible : type.Legible) :
    ∀ line ∈ type.lines, Text.Unbroken line := by
  have name := Text.unbroken_of_isIdentifier legible.identifier
  cases type with
  | object object =>
      have keyword : Text.Unbroken "type " := by decide
      apply unbroken_of_mem_blockLines (keyword.append name)
      intro line member
      obtain ⟨field, listed, rfl⟩ := List.mem_map.mp member
      exact (ObjectType.Legible.fields legible |>.of_mem_values listed).unbroken_text
  | input input =>
      have keyword : Text.Unbroken "input " := by decide
      apply unbroken_of_mem_blockLines (keyword.append name)
      intro line member
      obtain ⟨field, listed, rfl⟩ := List.mem_map.mp member
      exact (InputType.Legible.fields legible |>.of_mem_values listed).unbroken_text

namespace Schema

variable {schema : Schema}

/-- The lines of a schema text. -/
def lines (schema : Schema) : List String :=
  (if schema.uses .dateTime then ["scalar DateTime", ""] else []) ++
    blockLines "schema" ["query: " ++ schema.query.name] ++
    (.object schema.query :: schema.types.values).flatMap fun type => "" :: type.lines

/-- The text of a schema is its lines. -/
theorem sdl_eq (schema : Schema) :
    schema.sdl = String.join (schema.lines.map (· ++ "\n")) := by
  have blocks : ∀ types : List TypeDef,
      String.join ((types.map TypeDef.text).map ("\n" ++ ·)) =
        String.join ((types.flatMap fun type => "" :: type.lines).map (· ++ "\n")) := by
    intro types
    induction types with
    | nil => rfl
    | cons head rest ih =>
        rw [List.map_cons, List.map_cons, String.join_cons, ih, TypeDef.text_eq,
          List.flatMap_cons, List.map_append, String.join_append, List.map_cons, String.join_cons]
        rfl
  have declaration : schema.scalarText = String.join
      ((if schema.uses .dateTime then ["scalar DateTime", ""] else []).map (· ++ "\n")) := by
    rw [scalarText]
    split <;> rfl
  rw [sdl, lines, List.map_append, List.map_append, String.join_append, String.join_append,
    ← declaration, ← blockText_eq, ← blocks]
  rfl

/-- The lines of a legible schema are the lines of its text. -/
theorem Legible.split_sdl (legible : schema.Legible) :
    Text.split '\n' schema.sdl = schema.lines ++ [""] := by
  rw [sdl_eq]
  apply Text.split_ended
  intro line member
  rw [lines, List.mem_append, List.mem_append, List.mem_flatMap] at member
  rcases member with (declared | heading) | ⟨type, listed, own⟩
  · split at declared
    · simp only [List.mem_cons, List.not_mem_nil, or_false] at declared
      rcases declared with rfl | rfl <;> decide
    · cases declared
  · refine unbroken_of_mem_blockLines (by decide) ?_ line heading
    intro inner root
    rw [List.mem_singleton.mp root]
    have keyword : Text.Unbroken "query: " := by decide
    exact keyword.append (Text.unbroken_of_isIdentifier legible.query.identifier)
  · rcases List.mem_cons.mp own with rfl | inside
    · decide
    · exact (legible.of_mem listed).unbroken_of_mem_lines line inside

/-- The object types of a schema, the root type first. -/
def objects (schema : Schema) : List ObjectType :=
  schema.query :: schema.types.values.filterMap fun type =>
    match type with
    | .object object => some object
    | .input _ => none

/-- The input types of a schema. -/
def inputs (schema : Schema) : List InputType :=
  schema.types.values.filterMap fun type =>
    match type with
    | .object _ => none
    | .input input => some input

/-- A scalar is what some field, argument or input field is made of. -/
inductive Mentions (schema : Schema) (scalar : Scalar) : Prop where
  | field {object : ObjectType} {field : Field} (ofSchema : object ∈ schema.objects)
      (ofObject : field ∈ object.fields.values) (base : field.type.base = .scalar scalar)
  | argument {object : ObjectType} {field : Field} {argument : Argument}
      (ofSchema : object ∈ schema.objects) (ofObject : field ∈ object.fields.values)
      (ofField : argument ∈ field.arguments.values) (base : argument.type.base = .scalar scalar)
  | input {input : InputType} {field : Argument} (ofSchema : input ∈ schema.inputs)
      (ofInput : field ∈ input.fields.values) (base : field.type.base = .scalar scalar)

/-- What is searched for the scalar is all that may mention it. -/
theorem uses_iff (schema : Schema) (scalar : Scalar) :
    schema.uses scalar = true ↔ schema.Mentions scalar := by
  have base : ∀ type : TypeRef, (type.scalar? == some scalar) = true ↔
      type.base = .scalar scalar := by
    intro type
    rw [TypeRef.scalar?]
    cases type.base <;> simp
  have field : ∀ field : Field, field.uses scalar = true ↔ field.type.base = .scalar scalar ∨
      ∃ argument ∈ field.arguments.values, argument.type.base = .scalar scalar := by
    intro field
    rw [Field.uses, Bool.or_eq_true, List.any_eq_true, base]
    simp only [base]
  have object : ∀ object ∈ schema.objects, object.uses scalar = true → schema.Mentions scalar := by
    intro object ofSchema used
    obtain ⟨output, ofObject, mentioned⟩ := List.any_eq_true.mp used
    rcases (field output).mp mentioned with made | ⟨argument, ofField, made⟩
    · exact .field ofSchema ofObject made
    · exact .argument ofSchema ofObject ofField made
  have searched : ∀ object ∈ schema.objects, object.uses scalar = true →
      schema.uses scalar = true := by
    intro object ofSchema used
    rw [uses, Bool.or_eq_true, List.any_eq_true]
    rcases List.mem_cons.mp ofSchema with rfl | generated
    · exact .inl used
    · obtain ⟨type, listed, isObject⟩ := List.mem_filterMap.mp generated
      cases type with
      | object type => exact .inr ⟨_, listed, Option.some.inj isObject ▸ used⟩
      | input type => cases isObject
  constructor
  · intro used
    rw [uses, Bool.or_eq_true, List.any_eq_true] at used
    rcases used with root | ⟨type, listed, generated⟩
    · exact object _ List.mem_cons_self root
    · cases type with
      | object type =>
          exact object type (List.mem_cons_of_mem _ (List.mem_filterMap.mpr ⟨_, listed, rfl⟩))
            generated
      | input type =>
          obtain ⟨entry, ofInput, made⟩ := List.any_eq_true.mp generated
          exact .input (List.mem_filterMap.mpr ⟨_, listed, rfl⟩) ofInput ((base _).mp made)
  · rintro (⟨ofSchema, ofObject, made⟩ | ⟨ofSchema, ofObject, ofField, made⟩ |
      ⟨ofSchema, ofInput, made⟩)
    · exact searched _ ofSchema
        (List.any_eq_true.mpr ⟨_, ofObject, (field _).mpr (.inl made)⟩)
    · exact searched _ ofSchema
        (List.any_eq_true.mpr ⟨_, ofObject, (field _).mpr (.inr ⟨_, ofField, made⟩)⟩)
    · obtain ⟨type, listed, isInput⟩ := List.mem_filterMap.mp ofSchema
      cases type with
      | object type => cases isInput
      | input type =>
          have used : type.uses scalar = true := List.any_eq_true.mpr
            ⟨_, Option.some.inj isInput ▸ ofInput, (base _).mpr made⟩
          rw [uses, Bool.or_eq_true, List.any_eq_true]
          exact .inr ⟨_, listed, used⟩

/-- The text of a well-formed schema declares the date scalar exactly if it is mentioned. -/
theorem WellFormed.declares_iff (formed : schema.WellFormed) :
    "scalar DateTime" ∈ Text.split '\n' schema.sdl ↔ schema.Mentions .dateTime := by
  have heading : "scalar DateTime" ∉ blockLines "schema" ["query: " ++ schema.query.name] :=
    scalar_not_mem_blockLines (Text.append_ne (by decide))
  have types : "scalar DateTime" ∉
      (.object schema.query :: schema.types.values).flatMap fun type => "" :: type.lines := by
    rw [List.mem_flatMap]
    rintro ⟨type, _, own⟩
    rcases List.mem_cons.mp own with blank | inside
    · exact absurd blank (by decide)
    · exact type.scalar_not_mem_lines inside
  have rest : "scalar DateTime" ∉ [""] := by decide
  rw [formed.legible.split_sdl, ← uses_iff, lines]
  rw [List.mem_append, List.mem_append, List.mem_append]
  simp only [heading, types, rest, or_false]
  split
  · simp [*]
  · simp [*]

end Schema

end DocQuery
