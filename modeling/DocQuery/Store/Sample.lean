import DocQuery.Store.Memory

/-!
# A sample store

Readings of a few sensors, with awkward names, a field whose type has no scalar,
a date with an offset and one that cannot be read.
-/

namespace DocQuery.Memory

/-- Metadata that gives every field a store type. -/
def metadataOf (fields : List (String × String)) : Json :=
  let properties : Fields := .ofList (fields.map fun (name, kind) =>
    (name, .object [("type", .string kind)]))
  .object [("mappings", .object [("properties", .ofFields properties)])]

/-- One reading of a sensor. -/
def reading (time : String) (temperature : Float) (count : Nat) (sensor : String) : Fields :=
  .ofList [("@timestamp", .string time), ("+X Temperature", .ofFloat temperature),
    ("count", .ofNat count), ("sensor", .string sensor)]

/-- Four readings in the collection `es-index`. -/
def readings : Memory :=
  let created := empty.createCollection "es-index" (metadataOf
    [("@timestamp", "date"), ("+X Temperature", "float"), ("count", "long"),
      ("sensor", "string"), ("location", "geo_point")])
  let first := (reading "2024-01-01T00:00:00Z" 10 1 "alpha").insert "location" (.string "51.5,0.1")
  [("a", first), ("b", reading "2024-01-02T00:00:00Z" 20 2 "beta"),
      ("c", reading "2024-01-03T00:00:00+01:00" 30 3 "alpha"),
      ("d", reading "garbage" 40 4 "gamma")].foldl
    (fun memory document => memory.insert "es-index" document.1 document.2) created

end DocQuery.Memory
