import DocQuery.Log
import DocQuery.Names.Normalize
import DocQuery.OrderedMap

/-!
# The name registry

The registry remembers which store name an identifier was made from. Bindings
are never removed. Two store names may have the same identifier; looking the
identifier up then gives the name that was registered last.

Registering is a fold over names, so what a registry holds depends on the
sequence of registered names and on nothing else.
-/

namespace DocQuery

/-- Store names and identifiers, in both directions. -/
structure Registry where
  /-- Every registered store name with its identifier. -/
  identifiers : OrderedMap String String
  /-- Every identifier with the store name registered last for it. -/
  storeNames : OrderedMap String String
  deriving DecidableEq

namespace Registry

/-- The registry before any registration. -/
def empty : Registry := ⟨.empty, .empty⟩

/-- Binds a store name and its identifier in both directions. -/
def register (registry : Registry) (name : String) : Registry where
  identifiers := registry.identifiers.insert name (Names.normalize name)
  storeNames := registry.storeNames.insert (Names.normalize name) name

/-- Registers names one after another. -/
def registerAll (registry : Registry) (names : List String) : Registry :=
  names.foldl register registry

/-- The identifier of a registered store name. -/
def toIdentifier? (registry : Registry) (name : String) : Option String :=
  registry.identifiers.find? name

/-- The store name registered last for an identifier. -/
def toStoreName? (registry : Registry) (identifier : String) : Option String :=
  registry.storeNames.find? identifier

/-- The store name that an identifier stands for; an unknown one stands for itself. -/
def storeName (registry : Registry) (identifier : String) : String :=
  (registry.toStoreName? identifier).getD identifier

/-- The number of registered store names. -/
def size (registry : Registry) : Nat := registry.identifiers.size

/-- Whether no name is registered. -/
def isEmpty (registry : Registry) : Bool := registry.size == 0

/-- What registering a name leaves in the log: a warning if its identifier
stood for another name. -/
def registrationEvents (registry : Registry) (name : String) : List Event :=
  match registry.toStoreName? (Names.normalize name) with
  | none => []
  | some previous =>
    if previous = name then [] else [.nameCollision (Names.normalize name) previous name]

@[simp] theorem registerAll_cons (registry : Registry) (name : String) (names : List String) :
    registry.registerAll (name :: names) = (registry.register name).registerAll names := rfl

/-- Registering a sequence is registering its parts one after the other. -/
theorem registerAll_append (registry : Registry) (first second : List String) :
    registry.registerAll (first ++ second) = (registry.registerAll first).registerAll second :=
  List.foldl_append

/-- Registering binds the name itself and leaves the other names as they were. -/
theorem toIdentifier?_register (registry : Registry) (name other : String) :
    (registry.register name).toIdentifier? other =
      if name = other then some (Names.normalize name) else registry.toIdentifier? other :=
  registry.identifiers.find?_insert name other _

/-- Registering rebinds the identifier of the name and leaves the other
identifiers as they were. -/
theorem toStoreName?_register (registry : Registry) (name identifier : String) :
    (registry.register name).toStoreName? identifier =
      if Names.normalize name = identifier then some name
      else registry.toStoreName? identifier :=
  registry.storeNames.find?_insert (Names.normalize name) identifier name

end Registry

end DocQuery
