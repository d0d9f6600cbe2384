import DocQuery.OrderedMap

/-!
# JSON values

Objects keep the order of their members. Whole numbers and 64-bit floating-point
numbers are told apart, so `1` and `1.0` are different values.
-/

namespace DocQuery

/-- A JSON number: a whole number or a floating-point number. -/
inductive Number where
  | int (value : Int)
  | float (value : Float)
  deriving DecidableEq

/-- A JSON value with ordered object members. -/
inductive Json where
  | null
  | bool (value : Bool)
  | number (value : Number)
  | string (value : String)
  | array (items : List Json)
  | object (members : List (String × Json))

/-- The members of a JSON object whose keys are distinct. -/
abbrev Fields := OrderedMap String Json

namespace Number

/-- A whole number that is not negative. -/
def asNat? : Number → Option Nat
  | .int (.ofNat n) => some n
  | _ => none

/-- A whole number that fits a signed 64-bit word. -/
def asInt64? : Number → Option Int
  | .int n => if -0x8000_0000_0000_0000 ≤ n ∧ n < 0x8000_0000_0000_0000 then some n else none
  | .float _ => none

/-- The nearest floating-point number. -/
def toFloat : Number → Float
  | .int n => Float.ofInt n
  | .float x => x

end Number

namespace Json

instance : Inhabited Json := ⟨.null⟩

mutual

/-- Equality of JSON values is decided member by member. -/
protected def decEq : (left right : Json) → Decidable (left = right)
  | .null, .null => isTrue rfl
  | .bool a, .bool b => decidable_of_iff (a = b) (by simp)
  | .number a, .number b => decidable_of_iff (a = b) (by simp)
  | .string a, .string b => decidable_of_iff (a = b) (by simp)
  | .array a, .array b =>
    match Json.decEqItems a b with
    | isTrue equal => isTrue (congrArg array equal)
    | isFalse differ => isFalse fun equal => differ (array.inj equal)
  | .object a, .object b =>
    match Json.decEqMembers a b with
    | isTrue equal => isTrue (congrArg object equal)
    | isFalse differ => isFalse fun equal => differ (object.inj equal)
  | .null, .bool _ | .null, .number _ | .null, .string _
  | .null, .array _ | .null, .object _
  | .bool _, .null | .bool _, .number _ | .bool _, .string _
  | .bool _, .array _ | .bool _, .object _
  | .number _, .null | .number _, .bool _ | .number _, .string _
  | .number _, .array _ | .number _, .object _
  | .string _, .null | .string _, .bool _ | .string _, .number _
  | .string _, .array _ | .string _, .object _
  | .array _, .null | .array _, .bool _ | .array _, .number _
  | .array _, .string _ | .array _, .object _
  | .object _, .null | .object _, .bool _ | .object _, .number _
  | .object _, .string _ | .object _, .array _ => isFalse nofun

/-- Equality of the items of arrays. -/
protected def decEqItems : (left right : List Json) → Decidable (left = right)
  | [], [] => isTrue rfl
  | [], _ :: _ | _ :: _, [] => isFalse nofun
  | a :: as, b :: bs =>
    match Json.decEq a b, Json.decEqItems as bs with
    | isTrue head, isTrue tail => isTrue (by rw [head, tail])
    | isFalse head, _ => isFalse fun equal => head (List.cons.inj equal).1
    | _, isFalse tail => isFalse fun equal => tail (List.cons.inj equal).2

/-- Equality of the members of objects. -/
protected def decEqMembers : (left right : List (String × Json)) → Decidable (left = right)
  | [], [] => isTrue rfl
  | [], _ :: _ | _ :: _, [] => isFalse nofun
  | (k, a) :: as, (l, b) :: bs =>
    match decEq k l, Json.decEq a b, Json.decEqMembers as bs with
    | isTrue key, isTrue value, isTrue tail => isTrue (by rw [key, value, tail])
    | isFalse key, _, _ => isFalse fun equal => key (Prod.mk.inj (List.cons.inj equal).1).1
    | _, isFalse value, _ => isFalse fun equal => value (Prod.mk.inj (List.cons.inj equal).1).2
    | _, _, isFalse tail => isFalse fun equal => tail (List.cons.inj equal).2

end

instance : DecidableEq Json := Json.decEq

/-- A natural number. -/
def ofNat (n : Nat) : Json := .number (.int n)

/-- An integer. -/
def ofInt (n : Int) : Json := .number (.int n)

/-- A floating-point number; JSON has no other word for one that is not finite
than `null`. -/
def ofFloat (x : Float) : Json := if x.isFinite then .number (.float x) else .null

/-- An array of strings. -/
def ofStrings (texts : List String) : Json := .array (texts.map .string)

/-- An object. -/
def ofFields (fields : Fields) : Json := .object fields.entries

/-- The member of an object; other values have no members. -/
def get? (key : String) : Json → Option Json
  | .object members => Entries.find? key members
  | _ => none

/-- The text of a string. -/
def asString? : Json → Option String
  | .string text => some text
  | _ => none

/-- The items of an array. -/
def asArray? : Json → Option (List Json)
  | .array items => some items
  | _ => none

/-- The members of an object. -/
def asFields? : Json → Option Fields
  | .object members => some (.ofList members)
  | _ => none

/-- The value of a number as a floating-point number. -/
def asFloat? : Json → Option Float
  | .number n => some n.toFloat
  | _ => none

/-- A whole number that is not negative. -/
def asNat? : Json → Option Nat
  | .number n => n.asNat?
  | _ => none

/-- Whether the value is `null`. -/
def isNull : Json → Bool
  | .null => true
  | _ => false

/-- Whether the value is a boolean, a number or a string. -/
def isScalar : Json → Bool
  | .bool _ | .number _ | .string _ => true
  | _ => false

end Json

end DocQuery
