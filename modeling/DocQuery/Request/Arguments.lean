import DocQuery.Error
import DocQuery.Json.Describe
import DocQuery.Query.Basic

/-!
# Arguments of root fields

Arguments arrive as JSON values and are read once, into a size, an id or a
filter. A filter says by clause and by field which bounds a value has to keep.
Members that are `null` count as absent.

A filter is refused at the first fault, in the order in which it is written;
only afterwards are the bounds themselves looked at.
-/

namespace DocQuery

/-- A condition on a field. -/
structure Condition where
  /-- Bounds on the value, if any are given. -/
  bounds : Option (OrderedMap RangeOp Json)
  deriving DecidableEq

/-- Conditions by clause and by field. -/
abbrev Filter := OrderedMap Clause (OrderedMap String Condition)

/-- What makes a filter unreadable. -/
inductive FilterFault where
  /-- A value of the wrong sort. -/
  | wrongSort (found expected : String)
  /-- A key that is none of the known ones. -/
  | unknownVariant (key : String) (known : List String)
  /-- A member that conditions do not have. -/
  | unknownMember (key : String)
  /-- An array that stands for a condition has too many items. -/
  | tooLong (length : Nat)
  /-- A bound that is neither a boolean nor a number nor a string. -/
  | notScalar (clause : Clause) (field : String) (op : RangeOp)
  deriving DecidableEq, Repr

/-- A text in backquotes. -/
def backquoted (text : String) : String := "`" ++ text ++ "`"

/-- The wording of a fault. -/
def FilterFault.message : FilterFault → String
  | .wrongSort found expected => "invalid type: " ++ found ++ ", expected " ++ expected
  | .unknownVariant key known =>
    "unknown variant " ++ backquoted key ++ ", expected one of " ++
      ", ".intercalate (known.map backquoted)
  | .unknownMember key => "unknown field " ++ backquoted key ++ ", expected `range`"
  | .tooLong length =>
    "invalid length " ++ Text.natText length ++ ", expected fewer elements in array"
  | .notScalar clause field op =>
    clause.name ++ "." ++ field ++ ".range." ++ op.name ++ " must be a scalar value"

/-- A fault of a filter as an error. -/
def FilterFault.error (fault : FilterFault) : Error :=
  .of (.invalidArgument "boolean_query" fault.message)

namespace Json

mutual

/-- Removes members that are `null` from an object and from the objects in it. -/
def prune : Json → Json
  | .object members => .object (pruneMembers members)
  | other => other

/-- Removes members that are `null`. -/
def pruneMembers : List (String × Json) → List (String × Json)
  | [] => []
  | (key, value) :: rest =>
    if value.isNull then pruneMembers rest else (key, value.prune) :: pruneMembers rest

end

end Json

namespace Filter

/-- The members of an object; other values are refused. -/
def membersOf : Json → Except FilterFault (List (String × Json))
  | .object members => .ok members
  | other => .error (.wrongSort other.describe "a map")

/-- The operator that a key names. -/
def readOp (key : String) : Except FilterFault RangeOp :=
  match RangeOp.ofName? key with
  | some op => .ok op
  | none => .error (.unknownVariant key (RangeOp.all.map RangeOp.name))

/-- The clause that a key names. -/
def readClause (key : String) : Except FilterFault Clause :=
  match Clause.ofName? key with
  | some clause => .ok clause
  | none => .error (.unknownVariant key (Clause.all.map Clause.name))

/-- Bounds by operator. -/
def readBounds (value : Json) : Except FilterFault (OrderedMap RangeOp Json) := do
  let members ← membersOf value
  let bounds ← members.mapM fun (key, bound) => do .ok (← readOp key, bound)
  .ok (.ofList bounds)

/-- Bounds or `null`. -/
def readOptionalBounds : Json → Except FilterFault (Option (OrderedMap RangeOp Json))
  | .null => .ok none
  | value => (readBounds value).map some

/-- The bounds among the members of a condition. -/
def readRangeMember : List (String × Json) →
    Except FilterFault (Option (OrderedMap RangeOp Json))
  | [] => .ok none
  | (key, value) :: rest =>
    if key = "range" then do
      let bounds ← readOptionalBounds value
      let later ← readRangeMember rest
      .ok (later <|> bounds)
    else .error (.unknownMember key)

/-- A condition: an object with a range, or an array that lists just the range. -/
def readCondition : Json → Except FilterFault Condition
  | .object members => (readRangeMember members).map Condition.mk
  | .array [] => .ok ⟨none⟩
  | .array [value] => (readOptionalBounds value).map Condition.mk
  | .array (value :: rest) => do
    let _ ← readOptionalBounds value
    .error (.tooLong (rest.length + 1))
  | other => .error (.wrongSort other.describe "struct TermLevelArg")

/-- Conditions by field. -/
def readConditions (value : Json) : Except FilterFault (OrderedMap String Condition) := do
  let members ← membersOf value
  let conditions ← members.mapM fun (field, condition) => do
    .ok (field, ← readCondition condition)
  .ok (.ofList conditions)

/-- Conditions by clause and by field. -/
def readClauses (value : Json) : Except FilterFault Filter := do
  let members ← membersOf value
  let clauses ← members.mapM fun (key, conditions) => do
    let clause ← readClause key
    .ok (clause, ← readConditions conditions)
  .ok (.ofList clauses)

/-- The bounds of a filter, each with its clause, its field and its operator. -/
def bounds (filter : Filter) : List (Clause × String × RangeOp × Json) :=
  filter.entries.flatMap fun (clause, conditions) =>
    conditions.entries.flatMap fun (field, condition) =>
      (condition.bounds.getD .empty).entries.map fun (op, bound) => (clause, field, op, bound)

/-- The first bound that is no scalar. -/
def scalarFault? (filter : Filter) : Option FilterFault :=
  (filter.bounds.find? fun (_, _, _, bound) => !bound.isScalar).map
    fun (clause, field, op, _) => .notScalar clause field op

/-- Reads a filter that is present. -/
def readPresent (value : Json) : Except FilterFault Filter := do
  let filter ← readClauses value.prune
  match filter.scalarFault? with
  | some fault => .error fault
  | none => .ok filter

/-- Reads an optional filter; `null` is no filter. -/
def read : Option Json → Except FilterFault (Option Filter)
  | none | some .null => .ok none
  | some value => (readPresent value).map some

end Filter

namespace Arguments

/-- The value of an argument that has to be given. -/
def required (arguments : Fields) (name : String) : Except Error Json :=
  match arguments.find? name with
  | none | some .null =>
    .error (.of (.invalidArgument name ("argument " ++ name ++ " not found")))
  | some value => .ok value

/-- How many documents are asked for. -/
def size (arguments : Fields) : Except Error Nat := do
  let value ← required arguments "size"
  match value.asNat? with
  | some size => .ok size
  | none => .error (.of (.invalidArgument "size" "expected a non-negative integer"))

/-- The id that is asked for; integers count as ids. -/
def id (arguments : Fields) : Except Error String := do
  let value ← required arguments "id"
  match value with
  | .string text => .ok text
  | .number (.int n) => .ok (Text.intText n)
  | _ => .error (.of (.invalidArgument "id" "expected a string"))

/-- The filter that is asked for, if any. -/
def filter (arguments : Fields) : Except Error (Option Filter) :=
  (Filter.read (arguments.find? "boolean_query")).mapError FilterFault.error

end Arguments

end DocQuery
