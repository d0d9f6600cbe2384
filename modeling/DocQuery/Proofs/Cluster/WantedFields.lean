import Mathlib.Data.List.Basic
import DocQuery.Cluster.Endpoint
import DocQuery.Proofs.Cluster.Escaping
import DocQuery.Text.Blank

/-!
# Fields that are asked for

A search carries the fields that are wanted of documents as an array. A request for one
document joins them with commas, in a parameter of its address. The parameter is read back
as it was written (`Url.parameters_withParameter`), but a name with a comma is broken there:
`wanted_fields_are_broken_at_commas` says what the store reads from either request, and which
lists of fields it cannot tell apart.
-/

namespace DocQuery.Text

variable {separator : Char} {text : String}

/-- Whatever stands between separators holds none. -/
theorem not_mem_of_mem_splitOn {chars piece : List Char}
    (member : piece ∈ chars.splitOn separator) : separator ∉ piece := by
  induction chars generalizing piece with
  | nil =>
      rw [List.splitOn_nil, List.mem_singleton] at member
      exact member ▸ List.not_mem_nil
  | cons c rest ih =>
      rw [List.splitOn_cons_eq_if_modifyHead] at member
      split at member
      case isTrue =>
        rcases List.mem_cons.mp member with rfl | later
        · exact List.not_mem_nil
        · exact ih later
      case isFalse other =>
        obtain ⟨first, others, pieces⟩ :=
          List.exists_cons_of_ne_nil (List.splitOn_ne_nil separator rest)
        rw [pieces, List.modifyHead_cons] at member
        rcases List.mem_cons.mp member with rfl | later
        · have clean := ih (pieces ▸ List.mem_cons_self)
          rintro (_ | ⟨_, inside⟩)
          · exact other (beq_self_eq_true _)
          · exact clean inside
        · exact ih (pieces ▸ List.mem_cons_of_mem _ later)

/-- Parts that are joined with separators break where they are joined, and where they hold
separators themselves. -/
theorem splitOn_intercalate_eq_flatMap {pieces : List (List Char)} (inhabited : pieces ≠ []) :
    ([separator].intercalate pieces).splitOn separator =
      pieces.flatMap (List.splitOn separator) := by
  induction pieces with
  | nil => exact absurd rfl inhabited
  | cons first rest ih =>
      cases rest with
      | nil => rw [List.intercalate_singleton, List.flatMap_singleton]
      | cons second others =>
          rw [List.intercalate_cons_cons, List.append_assoc, List.singleton_append,
            List.splitOn_append_cons_self, ih (List.cons_ne_nil _ _), ← List.flatMap_cons]

/-- Texts that are joined with commas break there and at their own commas. -/
theorem split_intercalate {texts : List String} (inhabited : texts ≠ []) :
    split ',' (",".intercalate texts) = texts.flatMap (split ',') := by
  have characters : (",".intercalate texts).toList = [','].intercalate (texts.map String.toList) :=
    String.toList_intercalate
  rw [split, characters, splitOn_intercalate_eq_flatMap (by simpa using inhabited),
    List.flatMap_map, List.map_flatMap]
  rfl

/-- A text without a separator is its only part. -/
theorem split_eq_singleton (whole : separator ∉ text.toList) : split separator text = [text] := by
  rw [split, List.splitOn_eq_singleton whole, List.map_singleton, String.ofList_toList]

/-- Breaking texts at separators leaves them as they are exactly if they hold none. -/
theorem flatMap_split_eq_self_iff {texts : List String} :
    texts.flatMap (split separator) = texts ↔ ∀ text ∈ texts, separator ∉ text.toList := by
  constructor
  · intro unbroken text member
    rw [← unbroken] at member
    obtain ⟨whole, _, part⟩ := List.mem_flatMap.mp member
    obtain ⟨piece, between, rfl⟩ := List.mem_map.mp part
    rw [String.toList_ofList]
    exact not_mem_of_mem_splitOn between
  · intro clean
    rw [List.flatMap_congr fun text member => split_eq_singleton (clean text member),
      List.flatMap_singleton']

/-- A text is known by its parts. -/
theorem split_injective : Function.Injective (split separator) := by
  intro text other same
  have pieces := List.map_injective_iff.mpr (fun _ _ => String.ofList_injective) same
  have joined := congrArg [separator].intercalate pieces
  rw [List.intercalate_splitOn, List.intercalate_splitOn] at joined
  exact String.toList_injective joined

end DocQuery.Text

namespace DocQuery.Cluster

namespace Url

/-- Name and value of a part of a query. -/
def readParameter (part : List Char) : String × String :=
  (formDecode (part.takeWhile (· != '=')), formDecode (part.dropWhile (· != '=')).tail)

/-- The parameters that are read from the query of an address. -/
def parameters (url : Url) : List (String × String) :=
  (((url.query.getD "").toList.splitOn '&').filter (!·.isEmpty)).map readParameter

/-- Name and value are read back from the part that they are written as. -/
theorem readParameter_pair (name value : String) :
    readParameter ((formEncode name).toList ++ '=' :: (formEncode value).toList) =
      (name, value) := by
  have before : ∀ c ∈ (formEncode name).toList, (c != '=') = true := fun c member =>
    bne_iff_ne.mpr fun same => not_mem_formEncode (by decide) rfl name (same ▸ member)
  rw [readParameter, List.takeWhile_append_of_pos before, List.dropWhile_append_of_pos before,
    List.takeWhile_cons_of_neg (by decide), List.dropWhile_cons_of_neg (by decide),
    List.append_nil, List.tail_cons, formDecode_formEncode, formDecode_formEncode]

/-- What is written of a parameter stands at the end of the query, behind a separator if
there are others. -/
theorem query_withParameter (url : Url) (name value : String) :
    ((url.withParameter name value).query.getD "").toList =
      (url.query.getD "").toList ++ (if (url.query.getD "").toList = [] then [] else ['&']) ++
        ((formEncode name).toList ++ '=' :: (formEncode value).toList) := by
  rw [withParameter]
  by_cases none : url.query.getD "" = "" <;> simp [none]

/-- No separator of parameters stands in what is written of one. -/
theorem separator_not_mem_pair (name value : String) :
    '&' ∉ (formEncode name).toList ++ '=' :: (formEncode value).toList := by
  intro member
  rcases List.mem_append.mp member with inName | inRest
  · exact not_mem_formEncode (by decide) rfl name inName
  · rcases List.mem_cons.mp inRest with sign | inValue
    · exact absurd sign (by decide)
    · exact not_mem_formEncode (by decide) rfl value inValue

/-- A parameter that is added to an address is read back behind those that are there. -/
theorem parameters_withParameter (url : Url) (name value : String) :
    (url.withParameter name value).parameters = url.parameters ++ [(name, value)] := by
  have sole := List.splitOn_eq_singleton (separator_not_mem_pair name value)
  have pair := readParameter_pair name value
  have inhabited : (formEncode name).toList ++ '=' :: (formEncode value).toList ≠ [] := by simp
  rw [parameters, parameters, query_withParameter]
  generalize (formEncode name).toList ++ '=' :: (formEncode value).toList = part at *
  generalize (url.query.getD "").toList = given
  have kept : [part].filter (!·.isEmpty) = [part] := by simp [inhabited]
  -- An empty query has one part, which is empty and not read as a parameter.
  by_cases none : given = []
  · rw [none, if_pos rfl, List.nil_append, List.nil_append, sole, kept, List.map_singleton, pair]
    rfl
  · rw [if_neg none, List.append_assoc, List.singleton_append, List.splitOn_append_cons_self, sole,
      List.filter_append, kept, List.map_append, List.map_singleton, pair]

end Url

variable (host : Url) (collection id : String)

/-- The request for a document has one parameter more than its host, with the fields that are
wanted, joined by commas. -/
theorem parameters_of_getById (fields : List String) :
    (request host (.getById ⟨collection, id, .includes fields⟩)).url.parameters =
      host.parameters ++ [("_source_includes", ",".intercalate fields)] :=
  Url.parameters_withParameter (host.endpoint [collection, "_doc", id]) _ _

/-- Whatever fields are wanted, a search carries them as they are. The parameter of the
request for a document carries what is left of them when each is broken at its commas, which
are the same fields exactly if none has a comma. Two lists of fields are asked for in the same
way exactly if they break into the same parts. -/
theorem wanted_fields_are_broken_at_commas (search : Search) :
    (∀ fields, fields ≠ [] → ∃ value,
      (request host (.getById ⟨collection, id, .includes fields⟩)).url.parameters =
          host.parameters ++ [("_source_includes", value)] ∧
        Text.split ',' value = fields.flatMap (Text.split ',') ∧
        (request host (.search { search with source := .includes fields })).body.bind
            (Json.get? "_source") = some (.ofStrings fields) ∧
        (Text.split ',' value = fields ↔ ∀ field ∈ fields, ',' ∉ field.toList)) ∧
      ∀ fields others, fields ≠ [] → others ≠ [] →
        ((request host (.getById ⟨collection, id, .includes fields⟩)).url.parameters =
            (request host (.getById ⟨collection, id, .includes others⟩)).url.parameters ↔
          fields.flatMap (Text.split ',') = others.flatMap (Text.split ',')) := by
  constructor
  · intro fields inhabited
    have parts := Text.split_intercalate inhabited
    refine ⟨_, parameters_of_getById host collection id fields, parts, rfl, ?_⟩
    rw [parts, Text.flatMap_split_eq_self_iff]
  · intro fields others inhabited othersInhabited
    rw [parameters_of_getById, parameters_of_getById, List.append_cancel_left_eq,
      ← Text.split_intercalate inhabited, ← Text.split_intercalate othersInhabited,
      Text.split_injective.eq_iff]
    simp

/-- Fields with a space and a percent sign are read back, behind a parameter of the host. -/
theorem wanted_fields_are_read_behind_host :
    let host : Url := ⟨.http, "", "", .domain "es1", some 9200, [""], some "pretty", none⟩
    let get := fun fields => (request host (.getById ⟨"logs", "1", .includes fields⟩)).url
    (∃ value, (get ["unit price", "100%"]).parameters =
        [("pretty", ""), ("_source_includes", value)] ∧
      Text.split ',' value = ["unit price", "100%"]) ∧
      (get ["a,b", "c"]).parameters = (get ["a", "b,c"]).parameters := by
  intro host get
  obtain ⟨read, same⟩ :=
    wanted_fields_are_broken_at_commas host "logs" "1" ⟨"logs", .matchAll, 10, .all, []⟩
  obtain ⟨value, parameters, _, _, whole⟩ := read ["unit price", "100%"] (by decide)
  have given : host.parameters = [("pretty", "")] := by decide
  rw [given] at parameters
  exact ⟨⟨value, parameters, whole.mpr (by decide)⟩,
    (same ["a,b", "c"] ["a", "b,c"] (by decide) (by decide)).mpr (by decide)⟩

/-- One field with a comma and two fields have the same address, and the one is not read
from it. -/
theorem comma_in_field_is_read_as_separator :
    let host : Url := ⟨.http, "", "", .domain "es1", some 9200, [""], none, none⟩
    let get := fun fields => (request host (.getById ⟨"logs", "1", .includes fields⟩)).url
    get ["a,b"] = get ["a", "b"] ∧
      (get ["a,b"]).text = "http://es1:9200/logs/_doc/1?_source_includes=a%2Cb" ∧
      (get ["a,b"]).parameters = [("_source_includes", "a,b")] ∧
      Text.split ',' "a,b" = ["a", "b"] ∧
      (request host (.search ⟨"logs", .matchAll, 10, .includes ["a,b"], []⟩)).body.bind
        (Json.get? "_source") = some (.ofStrings ["a,b"]) := by
  exact ⟨by decide, by decide, by decide, by decide, rfl⟩

end DocQuery.Cluster
