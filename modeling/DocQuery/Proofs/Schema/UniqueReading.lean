import DocQuery.Proofs.Schema.GeneratedTypes
import DocQuery.Proofs.Schema.SchemaText

/-!
# Unique reading of schema texts

The text of a legible schema can be read in one way only: it determines the schema, up to
how fields are resolved. The text is taken apart as a reader would do it, into lines, the
lines into blocks, and a line into names and references, which end where a character
follows that they cannot have. At every level two texts are compared with something behind
them, so that what they end with is found to agree as well.
-/

namespace DocQuery

/-! ## Names and references in a text -/

/-- Characters that names and references are written with. -/
def isReferenceChar (c : Char) : Bool :=
  Names.isIdentifierChar c || c == '[' || c == ']' || c == '!'

/-- A text that a reader of names and references takes as a whole. -/
def IsReference (text : String) : Prop := ∀ c ∈ text.toList, isReferenceChar c = true

/-- A text before which a name or a reference ends. -/
def EndsReference (text : String) : Prop := ∀ c ∈ text.toList.head?, isReferenceChar c = false

instance : DecidablePred IsReference := fun text =>
  decidable_of_iff (text.toList.all isReferenceChar = true) List.all_eq_true

instance : DecidablePred EndsReference := fun text =>
  decidable_of_iff (text.toList.head?.all (fun c => !isReferenceChar c) = true)
    (by rw [Option.all_eq_true]; simp [EndsReference])

theorem IsReference.append {text more : String} (reference : IsReference text)
    (moreReference : IsReference more) : IsReference (text ++ more) := by
  intro c member
  rw [String.toList_append, List.mem_append] at member
  exact member.elim (reference c) (moreReference c)

theorem isReference_of_isIdentifier {name : String} (identifier : Names.IsIdentifier name) :
    IsReference name := by
  intro c member
  rw [isReferenceChar, identifier.isWord c member]
  rfl

/-- What follows a text that starts with such a character does not matter. -/
theorem EndsReference.append {text : String} (ends : EndsReference text)
    (inhabited : text ≠ "") (more : String) : EndsReference (text ++ more) := by
  intro c first
  rw [String.toList_append] at first
  apply ends c
  cases chars : text.toList with
  | nil => exact absurd (String.toList_eq_nil_iff.mp chars) inhabited
  | cons head rest =>
      rw [chars] at first
      exact first

/-- A reader of references stops where it should. -/
theorem IsReference.takeWhile_append {text rest : String} (reference : IsReference text)
    (ends : EndsReference rest) :
    (text ++ rest).toList.takeWhile isReferenceChar = text.toList := by
  rw [String.toList_append, List.takeWhile_append_of_pos reference]
  cases chars : rest.toList with
  | nil => simp
  | cons head others =>
      have outside : isReferenceChar head = false := by
        apply ends
        rw [chars]
        rfl
      rw [List.takeWhile_cons_of_neg (by simp [outside]), List.append_nil]

/-- Texts that agree agree in the reference in front and in what follows. -/
theorem IsReference.append_inj {text other rest otherRest : String}
    (reference : IsReference text) (otherReference : IsReference other)
    (ends : EndsReference rest) (otherEnds : EndsReference otherRest)
    (same : text ++ rest = other ++ otherRest) : text = other ∧ rest = otherRest := by
  have front : text = other := by
    rw [← String.toList_inj, ← reference.takeWhile_append ends, same,
      otherReference.takeWhile_append otherEnds]
  subst front
  exact ⟨rfl, (String.append_right_inj text).mp same⟩

/-- The names of scalars are words. -/
theorem Scalar.isWord_name (scalar : Scalar) : Names.IsWord scalar.name := by
  cases scalar <;> decide

/-- Different scalars have different names. -/
theorem Scalar.name_injective : Function.Injective Scalar.name := by
  intro scalar other same
  cases scalar <;> cases other <;> first | rfl | exact absurd same (by decide)

namespace TypeRef

/-- The name in a reference, if there is one, is legible. -/
def Legible (type : TypeRef) : Prop := ∀ name, type.named? = some name → LegibleName name

theorem Legible.isReference_text {type : TypeRef} (legible : type.Legible) :
    IsReference type.text := by
  induction type with
  | scalar leaf => cases leaf <;> decide
  | named name => exact isReference_of_isIdentifier (legible name rfl).identifier
  | list item ih =>
      have opening : IsReference "[" := by decide
      have closing : IsReference "]" := by decide
      exact (opening.append (ih legible)).append closing
  | nonNull inner ih =>
      have mark : IsReference "!" := by decide
      exact (ih legible).append mark

/-- A list is not written like a leaf. -/
theorem not_isWord_list (item : TypeRef) : ¬ Names.IsWord (TypeRef.list item).text := by
  intro word
  have opening : '[' ∈ (TypeRef.list item).text.toList := by simp [text]
  exact absurd (word _ opening) (by decide)

/-- What excludes null is not written like a leaf. -/
theorem not_isWord_nonNull (inner : TypeRef) : ¬ Names.IsWord (TypeRef.nonNull inner).text := by
  intro word
  have mark : '!' ∈ (TypeRef.nonNull inner).text.toList := by simp [text]
  exact absurd (word _ mark) (by decide)

/-- What excludes null is not written like a list. -/
theorem text_list_ne_text_nonNull (item inner : TypeRef) :
    (TypeRef.list item).text ≠ (TypeRef.nonNull inner).text := by
  intro same
  have last := congrArg (fun text => text.toList.reverse.head?) same
  simp [text] at last

/-- References with the same text are the same. -/
theorem Legible.eq_of_text {type other : TypeRef} (legible : type.Legible)
    (otherLegible : other.Legible) (same : type.text = other.text) : type = other := by
  -- the text of a leaf is a word and that of nothing else is, so only like meets like
  induction type generalizing other with
  | scalar leaf =>
      have word : Names.IsWord other.text := same ▸ leaf.isWord_name
      cases other with
      | scalar otherLeaf => rw [Scalar.name_injective same]
      | named name =>
          refine absurd ?_ (otherLegible name rfl).unlike
          rw [← show leaf.name = name from same]
          cases leaf <;> decide
      | list item => exact absurd word (not_isWord_list item)
      | nonNull inner => exact absurd word (not_isWord_nonNull inner)
  | named name =>
      have word : Names.IsWord other.text := same ▸ (legible name rfl).identifier.isWord
      cases other with
      | scalar leaf =>
          refine absurd ?_ (legible name rfl).unlike
          rw [show name = leaf.name from same]
          cases leaf <;> decide
      | named otherName => exact congrArg TypeRef.named same
      | list item => exact absurd word (not_isWord_list item)
      | nonNull inner => exact absurd word (not_isWord_nonNull inner)
  | list item ih =>
      cases other with
      | scalar leaf => exact absurd (same ▸ leaf.isWord_name) (not_isWord_list item)
      | named name =>
          exact absurd (same ▸ (otherLegible name rfl).identifier.isWord) (not_isWord_list item)
      | list otherItem =>
          have inside : otherItem.Legible := otherLegible
          simp only [text, String.append_left_inj, String.append_right_inj] at same
          rw [ih legible inside same]
      | nonNull inner => exact absurd same (text_list_ne_text_nonNull item inner)
  | nonNull inner ih =>
      cases other with
      | scalar leaf => exact absurd (same ▸ leaf.isWord_name) (not_isWord_nonNull inner)
      | named name =>
          exact absurd (same ▸ (otherLegible name rfl).identifier.isWord) (not_isWord_nonNull inner)
      | list item => exact absurd same.symm (text_list_ne_text_nonNull item inner)
      | nonNull otherInner =>
          have inside : otherInner.Legible := otherLegible
          simp only [text, String.append_left_inj] at same
          rw [ih legible inside same]

end TypeRef

/-! ## Arguments and fields -/

namespace Argument

/-- Arguments that are written alike are the same, and so is what follows them. -/
theorem WellFormed.eq_of_text_append {argument other : Argument}
    (formed : argument.WellFormed .legible) (otherFormed : other.WellFormed .legible)
    {rest otherRest : String} (ends : EndsReference rest) (otherEnds : EndsReference otherRest)
    (same : argument.text ++ rest = other.text ++ otherRest) :
    argument = other ∧ rest = otherRest := by
  have colon : ∀ text, EndsReference (": " ++ text) :=
    EndsReference.append (by decide) (by decide)
  simp only [text, String.append_assoc] at same
  obtain ⟨name, same⟩ := (isReference_of_isIdentifier formed.identifier).append_inj
    (isReference_of_isIdentifier otherFormed.identifier) (colon _) (colon _) same
  have legible : argument.type.Legible := formed.refers
  have otherLegible : other.type.Legible := otherFormed.refers
  obtain ⟨type, same⟩ := legible.isReference_text.append_inj otherLegible.isReference_text ends
    otherEnds ((String.append_right_inj _).mp same)
  refine ⟨?_, same⟩
  cases argument
  cases other
  rw [Argument.mk.injEq]
  exact ⟨name, legible.eq_of_text otherLegible type⟩

/-- Arguments that are written alike are the same. -/
theorem WellFormed.eq_of_text {argument other : Argument}
    (formed : argument.WellFormed .legible) (otherFormed : other.WellFormed .legible)
    (same : argument.text = other.text) : argument = other := by
  have ends : EndsReference "" := by decide
  exact (formed.eq_of_text_append otherFormed ends ends (by rw [same])).1

/-- What is behind the first argument: the others, each behind a comma, then the closing
parenthesis and the rest. -/
def followingText (arguments : List Argument) (rest : String) : String :=
  String.join (arguments.map fun argument => ", " ++ argument.text) ++ (")" ++ rest)

theorem followingText_nil (rest : String) : followingText [] rest = ")" ++ rest := by
  rw [followingText, List.map_nil, String.join_nil, String.empty_append]

theorem followingText_cons (head : Argument) (others : List Argument) (rest : String) :
    followingText (head :: others) rest = ", " ++ (head.text ++ followingText others rest) := by
  simp only [followingText, List.map_cons, String.join_cons, String.append_assoc]

theorem endsReference_followingText (arguments : List Argument) (rest : String) :
    EndsReference (followingText arguments rest) := by
  cases arguments with
  | nil => exact followingText_nil rest ▸ EndsReference.append (by decide) (by decide) _
  | cons head others =>
      exact followingText_cons head others rest ▸ EndsReference.append (by decide) (by decide) _

/-- The closing parenthesis tells where the arguments end. -/
theorem eq_of_followingText {arguments others : List Argument} {rest otherRest : String}
    (formed : ∀ argument ∈ arguments, argument.WellFormed .legible)
    (otherFormed : ∀ argument ∈ others, argument.WellFormed .legible)
    (same : followingText arguments rest = followingText others otherRest) :
    arguments = others ∧ rest = otherRest := by
  have closed : ∀ more text, ")" ++ more ≠ ", " ++ text := Text.append_ne_append (by decide)
  induction arguments generalizing others with
  | nil =>
      cases others with
      | nil =>
          simp only [followingText_nil, String.append_right_inj] at same
          exact ⟨rfl, same⟩
      | cons other others =>
          rw [followingText_nil, followingText_cons] at same
          exact absurd same (closed _ _)
  | cons argument arguments ih =>
      cases others with
      | nil =>
          rw [followingText_nil, followingText_cons] at same
          exact absurd same.symm (closed _ _)
      | cons other others =>
          rw [List.forall_mem_cons] at formed otherFormed
          rw [followingText_cons, followingText_cons, String.append_right_inj] at same
          obtain ⟨first, same⟩ := formed.1.eq_of_text_append otherFormed.1
            (endsReference_followingText _ _) (endsReference_followingText _ _) same
          obtain ⟨following, same⟩ := ih formed.2 otherFormed.2 same
          exact ⟨by rw [first, following], same⟩

end Argument

namespace Field

/-- A field with its resolver forgotten. -/
def unresolved (field : Field) : Field := { field with resolver := none }

/-- Without arguments there is no parenthesis. -/
theorem argumentsText_append_of_nil {field : Field} (none : field.arguments.values = [])
    (rest : String) : field.argumentsText ++ rest = rest := by
  have empty : field.arguments.isEmpty = true := by
    rw [OrderedMap.isEmpty, List.map_eq_nil_iff.mp none]
    rfl
  rw [argumentsText, if_pos empty, String.empty_append]

/-- The arguments are read one by one. -/
theorem argumentsText_append_of_cons {field : Field} {first : Argument} {others : List Argument}
    (given : field.arguments.values = first :: others) (rest : String) :
    field.argumentsText ++ rest = "(" ++ (first.text ++ Argument.followingText others rest) := by
  have inhabited : field.arguments.isEmpty ≠ true := by
    intro empty
    rw [OrderedMap.values, List.isEmpty_iff.mp empty] at given
    cases given
  have listed : ∀ (head : Argument) (others : List Argument),
      ", ".intercalate ((head :: others).map Argument.text) =
        head.text ++ String.join (others.map fun argument => ", " ++ argument.text) := by
    intro head others
    induction others generalizing head with
    | nil => simp
    | cons next others ih =>
        rw [List.map_cons, List.map_cons, String.intercalate_cons_cons, ← List.map_cons, ih,
          List.map_cons, String.join_cons]
        simp only [String.append_assoc]
  rw [argumentsText, if_neg inhabited, given, listed, Argument.followingText]
  simp only [String.append_assoc]

/-- Arguments that are written alike are the same, and so is what follows them. -/
theorem WellFormed.arguments_eq_of_text {field other : Field} (formed : field.WellFormed .legible)
    (otherFormed : other.WellFormed .legible) {rest otherRest : String}
    (same : field.argumentsText ++ (": " ++ rest) = other.argumentsText ++ (": " ++ otherRest)) :
    field.arguments = other.arguments ∧ rest = otherRest := by
  have opened : ∀ more text, "(" ++ more ≠ ": " ++ text := Text.append_ne_append (by decide)
  suffices field.arguments.values = other.arguments.values ∧ rest = otherRest from
    ⟨OrderedMap.Indexes.eq_of_values formed.arguments otherFormed.arguments this.1, this.2⟩
  cases given : field.arguments.values with
  | nil =>
      rw [argumentsText_append_of_nil given] at same
      cases otherGiven : other.arguments.values with
      | nil =>
          rw [argumentsText_append_of_nil otherGiven, String.append_right_inj] at same
          exact ⟨rfl, same⟩
      | cons otherFirst others =>
          rw [argumentsText_append_of_cons otherGiven] at same
          exact absurd same.symm (opened _ _)
  | cons first arguments =>
      rw [argumentsText_append_of_cons given] at same
      cases otherGiven : other.arguments.values with
      | nil =>
          rw [argumentsText_append_of_nil otherGiven] at same
          exact absurd same (opened _ _)
      | cons otherFirst others =>
          rw [argumentsText_append_of_cons otherGiven, String.append_right_inj] at same
          -- behind a comma the first argument is one of the following
          have listed : Argument.followingText (first :: arguments) (": " ++ rest) =
              Argument.followingText (otherFirst :: others) (": " ++ otherRest) := by
            rw [Argument.followingText_cons, Argument.followingText_cons, same]
          obtain ⟨values, same⟩ := Argument.eq_of_followingText
            (fun argument member => formed.arguments.of_mem_values (given ▸ member))
            (fun argument member => otherFormed.arguments.of_mem_values (otherGiven ▸ member))
            listed
          exact ⟨values, (String.append_right_inj _).mp same⟩

/-- The name of a field ends before its arguments, or before its type if it has none. -/
theorem endsReference_argumentsText (field : Field) (type : String) :
    EndsReference (field.argumentsText ++ (": " ++ type)) := by
  cases given : field.arguments.values with
  | nil =>
      rw [argumentsText_append_of_nil given]
      exact EndsReference.append (by decide) (by decide) _
  | cons first others =>
      rw [argumentsText_append_of_cons given]
      exact EndsReference.append (by decide) (by decide) _

/-- Fields that are written alike differ in their resolvers at most. -/
theorem WellFormed.unresolved_eq_of_text {field other : Field}
    (formed : field.WellFormed .legible) (otherFormed : other.WellFormed .legible)
    (same : field.text = other.text) : field.unresolved = other.unresolved := by
  simp only [text, String.append_assoc] at same
  obtain ⟨name, same⟩ := (isReference_of_isIdentifier formed.identifier).append_inj
    (isReference_of_isIdentifier otherFormed.identifier) (endsReference_argumentsText _ _)
    (endsReference_argumentsText _ _) same
  obtain ⟨arguments, type⟩ := formed.arguments_eq_of_text otherFormed same
  have legible : field.type.Legible := formed.refers
  rw [unresolved, unresolved, Field.mk.injEq]
  exact ⟨name, legible.eq_of_text otherFormed.refers type, arguments, rfl⟩

end Field

/-! ## Types and schemas -/

/-- Blocks that are written alike have the same heading and the same members, and what
follows them is the same. -/
theorem blockLines_append_inj {heading otherHeading : String}
    {members others rest otherRest : List String}
    (same : blockLines heading members ++ rest = blockLines otherHeading others ++ otherRest) :
    heading = otherHeading ∧ members = others ∧ rest = otherRest := by
  have indented : ∀ member, "  " ++ member ≠ "\x7d" := Text.append_ne (by decide)
  simp only [blockLines, List.cons_append, List.append_assoc, List.nil_append, List.cons.injEq,
    String.append_left_inj] at same
  obtain ⟨sameHeading, same⟩ := same
  refine ⟨sameHeading, ?_⟩
  induction members generalizing others with
  | nil =>
      cases others with
      | nil => exact ⟨rfl, (List.cons.inj same).2⟩
      | cons other others => exact absurd (List.cons.inj same).1.symm (indented other)
  | cons member members ih =>
      cases others with
      | nil => exact absurd (List.cons.inj same).1 (indented member)
      | cons other others =>
          obtain ⟨first, same⟩ := List.cons.inj same
          obtain ⟨following, same⟩ := ih same
          exact ⟨by rw [(String.append_right_inj _).mp first, following], same⟩

/-- An object type with the resolvers of its fields forgotten. -/
def ObjectType.unresolved (object : ObjectType) : ObjectType :=
  { object with fields := object.fields.mapValues Field.unresolved }

/-- Object types with the same name whose fields are written alike differ in resolvers at
most. -/
theorem ObjectType.Legible.unresolved_eq_of_fields {object other : ObjectType}
    (legible : object.Legible) (otherLegible : other.Legible) (name : object.name = other.name)
    (same : object.fields.values.map Field.text = other.fields.values.map Field.text) :
    object.unresolved = other.unresolved := by
  have fields : object.fields.values.map Field.unresolved =
      other.fields.values.map Field.unresolved := by
    apply map_eq_map_of_determined same
    intro field member otherField otherMember
    exact (legible.fields.of_mem_values member).unresolved_eq_of_text
      (otherLegible.fields.of_mem_values otherMember)
  have names : ∀ field : Field, field.unresolved.name = field.name := fun _ => rfl
  rw [unresolved, unresolved, ObjectType.mk.injEq]
  refine ⟨name, (legible.fields.mapValues names).eq_of_values
    (otherLegible.fields.mapValues names) ?_⟩
  rw [OrderedMap.values_mapValues, OrderedMap.values_mapValues, fields]

/-- Input types with the same name whose fields are written alike are the same. -/
theorem InputType.Legible.eq_of_fields {input other : InputType} (legible : input.Legible)
    (otherLegible : other.Legible) (name : input.name = other.name)
    (same : input.fields.values.map Argument.text = other.fields.values.map Argument.text) :
    input = other := by
  have fields : input.fields.values.map id = other.fields.values.map id := by
    apply map_eq_map_of_determined same
    intro field member otherField otherMember
    exact (legible.fields.of_mem_values member).eq_of_text
      (otherLegible.fields.of_mem_values otherMember)
  rw [List.map_id, List.map_id] at fields
  cases input
  cases other
  rw [InputType.mk.injEq]
  exact ⟨name, legible.fields.eq_of_values otherLegible.fields fields⟩

namespace TypeDef

/-- A type with the resolvers of its fields forgotten. -/
def unresolved : TypeDef → TypeDef
  | .object type => .object type.unresolved
  | .input type => .input type

@[simp] theorem name_unresolved (type : TypeDef) : type.unresolved.name = type.name := by
  cases type <;> rfl

@[simp] theorem lines_unresolved (type : TypeDef) : type.unresolved.lines = type.lines := by
  cases type with
  | object object =>
      simp only [unresolved, lines, ObjectType.unresolved, OrderedMap.values_mapValues,
        List.map_map]
      -- what is left is that the text of a field does not look at the resolver
      rfl
  | input input => rfl

/-- Types that are written alike differ in resolvers at most, and what follows them is the
same. -/
theorem Legible.unresolved_eq_of_lines_append {type other : TypeDef} (legible : type.Legible)
    (otherLegible : other.Legible) {rest otherRest : List String}
    (same : type.lines ++ rest = other.lines ++ otherRest) :
    type.unresolved = other.unresolved ∧ rest = otherRest := by
  have sort : ∀ name otherName, "type " ++ name ≠ "input " ++ otherName :=
    Text.append_ne_append (by decide)
  cases type with
  | object object =>
      cases other with
      | object otherObject =>
          obtain ⟨heading, members, same⟩ := blockLines_append_inj same
          have name := (String.append_right_inj _).mp heading
          refine ⟨congrArg TypeDef.object ?_, same⟩
          exact ObjectType.Legible.unresolved_eq_of_fields legible otherLegible name members
      | input input => exact absurd (blockLines_append_inj same).1 (sort _ _)
  | input input =>
      cases other with
      | object object => exact absurd (blockLines_append_inj same).1.symm (sort _ _)
      | input otherInput =>
          obtain ⟨heading, members, same⟩ := blockLines_append_inj same
          have name := (String.append_right_inj _).mp heading
          refine ⟨congrArg TypeDef.input ?_, same⟩
          exact InputType.Legible.eq_of_fields legible otherLegible name members

/-- Types that are written alike one after another differ in resolvers at most. -/
theorem unresolved_eq_of_lines {types others : List TypeDef}
    (legible : ∀ type ∈ types, type.Legible) (otherLegible : ∀ type ∈ others, type.Legible)
    (same : (types.flatMap fun type => "" :: type.lines) =
      others.flatMap fun type => "" :: type.lines) :
    types.map unresolved = others.map unresolved := by
  induction types generalizing others with
  | nil =>
      cases others with
      | nil => rfl
      | cons other others => cases same
  | cons type types ih =>
      cases others with
      | nil => cases same
      | cons other others =>
          rw [List.forall_mem_cons] at legible otherLegible
          simp only [List.flatMap_cons, List.cons_append, List.cons.injEq, true_and] at same
          obtain ⟨first, same⟩ := legible.1.unresolved_eq_of_lines_append otherLegible.1 same
          rw [List.map_cons, List.map_cons, first, ih legible.2 otherLegible.2 same]

@[simp] theorem uses_unresolved (type : TypeDef) (scalar : Scalar) :
    type.unresolved.uses scalar = type.uses scalar := by
  cases type with
  | object object =>
      simp only [unresolved, uses, ObjectType.unresolved, ObjectType.uses,
        OrderedMap.values_mapValues, List.any_map]
      rfl
  | input input => rfl

end TypeDef

namespace Schema

variable {schema other : Schema}

/-- A schema with the resolvers of its fields forgotten. -/
def unresolved (schema : Schema) : Schema where
  query := schema.query.unresolved
  types := schema.types.mapValues TypeDef.unresolved

/-- How fields are resolved is not written. -/
theorem lines_unresolved (schema : Schema) : schema.unresolved.lines = schema.lines := by
  have used : schema.unresolved.uses .dateTime = schema.uses .dateTime := by
    have root := (TypeDef.object schema.query).uses_unresolved .dateTime
    have types : schema.unresolved.types.values.any (TypeDef.uses .dateTime) =
        schema.types.values.any (TypeDef.uses .dateTime) := by
      simp only [unresolved, OrderedMap.values_mapValues, List.any_map, Function.comp_def,
        TypeDef.uses_unresolved]
    rw [uses, uses, types]
    exact congrArg (· || _) root
  have types : TypeDef.object schema.unresolved.query :: schema.unresolved.types.values =
      (TypeDef.object schema.query :: schema.types.values).map TypeDef.unresolved := by
    rw [unresolved, OrderedMap.values_mapValues]
    rfl
  rw [lines, lines, used, types, List.flatMap_map]
  simp only [TypeDef.lines_unresolved]
  rfl

/-- The first line tells whether the date scalar is declared. -/
theorem declared_append_inj {declared otherDeclared : Bool} {blocks otherBlocks : List String}
    (first : blocks.head? ≠ some "scalar DateTime")
    (otherFirst : otherBlocks.head? ≠ some "scalar DateTime")
    (same : (if declared then ["scalar DateTime", ""] else []) ++ blocks =
      (if otherDeclared then ["scalar DateTime", ""] else []) ++ otherBlocks) :
    blocks = otherBlocks := by
  cases declared with
  | false =>
      cases otherDeclared with
      | false => exact same
      | true => exact absurd (congrArg List.head? same) first
  | true =>
      cases otherDeclared with
      | false => exact absurd (congrArg List.head? same).symm otherFirst
      | true => exact (List.cons.inj (List.cons.inj same).2).2

/-- The lines of a legible schema determine all but its resolvers. -/
theorem Legible.unresolved_eq_of_lines (legible : schema.Legible) (otherLegible : other.Legible)
    (same : schema.lines = other.lines) : schema.unresolved = other.unresolved := by
  have heading : ∀ (root : String) (rest : List String),
      (blockLines "schema" [root] ++ rest).head? ≠ some "scalar DateTime" := by
    intro root rest
    rw [blockLines, List.cons_append, List.head?_cons]
    decide
  rw [lines, lines, List.append_assoc, List.append_assoc] at same
  have blocks := declared_append_inj (heading _ _) (heading _ _) same
  -- the first block may be skipped, as the name in it is that of the root type again
  have types := TypeDef.unresolved_eq_of_lines (fun _ => legible.of_mem)
    (fun _ => otherLegible.of_mem) (blockLines_append_inj blocks).2.2
  rw [List.map_cons, List.map_cons, List.cons.injEq] at types
  have names : ∀ type : TypeDef, type.unresolved.name = type.name := TypeDef.name_unresolved
  rw [unresolved, unresolved, Schema.mk.injEq]
  refine ⟨TypeDef.object.inj types.1, (legible.types.mapValues names).eq_of_values
    (otherLegible.types.mapValues names) ?_⟩
  rw [OrderedMap.values_mapValues, OrderedMap.values_mapValues, types.2]

/-- Legible schemas have the same text exactly if they differ in resolvers at most. -/
theorem sdl_determines_schema (legible : schema.Legible) (otherLegible : other.Legible) :
    schema.sdl = other.sdl ↔ schema.unresolved = other.unresolved := by
  constructor
  · intro same
    have lines := legible.split_sdl
    rw [same, otherLegible.split_sdl, List.append_left_inj] at lines
    exact legible.unresolved_eq_of_lines otherLegible lines.symm
  · intro same
    rw [sdl_eq, sdl_eq, ← lines_unresolved schema, ← lines_unresolved other, same]

/-- Books on shelves of a given type, which can be filtered by date. -/
def bookshelves (type : TypeRef) : Schema where
  query := (ObjectType.of rootName).pushAll
    [(Field.of "shelves" type).argument "where" (.list (.nonNull (.named "BookFilter")))]
  types := .ofList
    ([.object ((ObjectType.of "Book").pushAll [.of "printed" Scalar.dateTime]),
      .input ((InputType.of "BookFilter").pushAll [("printed", Scalar.dateTime)])].map
        fun type => (type.name, type))

theorem legible_bookshelves {type : TypeRef} (named : type.Legible) :
    (bookshelves type).Legible where
  query := by
    have filter : LegibleName "BookFilter" := ⟨by decide, by decide⟩
    have shelves : (Field.of "shelves" type).WellFormed .legible :=
      Field.wellFormed_of (by decide) named
    apply ObjectType.WellFormed.legible
    apply ObjectType.wellFormed_of_pushAll (by decide) (List.cons_ne_nil _ _)
    rw [List.forall_mem_singleton]
    refine shelves.argument (by decide) ?_
    simp [TypeNames.legible, filter]
  types := by
    apply OrderedMap.indexes_ofList
    rw [List.forall_mem_cons, List.forall_mem_singleton]
    constructor
    · apply ObjectType.WellFormed.legible
      apply ObjectType.wellFormed_of_pushAll (by decide) (List.cons_ne_nil _ _)
      rw [List.forall_mem_singleton]
      exact Field.wellFormed_of (by decide) (by simp)
    · apply TypeDef.WellFormed.legible
      apply InputType.wellFormed_of_pushAll (by decide) (List.cons_ne_nil _ _)
      rw [List.forall_mem_singleton]
      exact ⟨by decide, by simp⟩

/-- At which depth null is excluded can be read off the text. -/
theorem sdl_of_bookshelves_tells_depths_apart :
    (bookshelves (.list (.list (.nonNull (.named "Book"))))).Legible ∧
      (bookshelves (.list (.nonNull (.list (.named "Book"))))).Legible ∧
      (bookshelves (.list (.list (.nonNull (.named "Book"))))).sdl ≠
        (bookshelves (.list (.nonNull (.list (.named "Book"))))).sdl := by
  have book : LegibleName "Book" := ⟨by decide, by decide⟩
  have inner : (TypeRef.list (.list (.nonNull (.named "Book")))).Legible := by
    simp [TypeRef.Legible, book]
  have outer : (TypeRef.list (.nonNull (.list (.named "Book")))).Legible := by
    simp [TypeRef.Legible, book]
  refine ⟨legible_bookshelves inner, legible_bookshelves outer, ?_⟩
  rw [ne_eq, sdl_determines_schema (legible_bookshelves inner) (legible_bookshelves outer)]
  decide

end Schema

end DocQuery
