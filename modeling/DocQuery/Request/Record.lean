import DocQuery.Calendar.Printer
import DocQuery.Calendar.Reader
import DocQuery.Json.Printer
import DocQuery.Names.Registry
import DocQuery.Request.Projection
import DocQuery.Schema.Target
import DocQuery.Store.Response

/-!
# From stored documents to records

A record has the fields of a document under their identifiers. Fields whose
names are not registered are left out. Dates are written in one form, and a
date that cannot be read is left out. The id comes last, so it is the id even
if a field of the document has that identifier.
-/

namespace DocQuery.Record

/-- The store field that conventionally holds the time of an event. -/
def timestampField : String := "@timestamp"

/-- Whether a store field is read as a date. -/
def isDate (target : Target) (storeName : String) : Bool :=
  storeName == timestampField || target.holdsDates storeName

/-- The value of a field in the record; none for a date that cannot be read. -/
def value? (target : Target) (storeName : String) (value : Json) : Option Json :=
  if isDate target storeName then (Instant.ofJson? value).map fun instant => .string instant.text
  else some value

/-- The binding that a field of the document contributes. -/
def binding? (registry : Registry) (target : Target) (storeName : String) (value : Json) :
    Option (String × Json) := do
  let identifier ← registry.toIdentifier? storeName
  let value ← value? target storeName value
  some (identifier, value)

/-- What a field of the document leaves in the log. -/
def event? (registry : Registry) (target : Target) (storeName : String) (value : Json) :
    Option Event :=
  if (registry.toIdentifier? storeName).isSome && (value? target storeName value).isNone then
    some (.dateDropped storeName value.compact)
  else none

/-- The fields of a record. -/
def fields (registry : Registry) (target : Target) (includesId : Bool) (hit : Hit) : Fields :=
  let fields := OrderedMap.ofList
    (hit.source.entries.filterMap fun (key, value) => binding? registry target key value)
  if includesId then fields.insert Projection.idName (.string hit.id) else fields

/-- The record of a document. -/
def ofHit (registry : Registry) (target : Target) (includesId : Bool) (hit : Hit) : Json :=
  .ofFields (fields registry target includesId hit)

/-- What the record of a document leaves in the log. -/
def events (registry : Registry) (target : Target) (hit : Hit) : List Event :=
  hit.source.entries.filterMap fun (key, value) => event? registry target key value

end DocQuery.Record
