import DocQuery.Proofs.Maps.Bindings
import DocQuery.Store.Memory
import Mathlib.Data.List.Infix

/-!
# Collections that patterns describe

A pattern describes a name exactly if the name is what becomes of the pattern when each of
its stars is replaced by some text (`Glob.describes_iff`). The store is asked for collections
with a list of patterns, and finds those whose names one of the patterns describes.
-/

namespace DocQuery

namespace Glob

variable {pattern name : List Char}

/-- What becomes of a pattern when its stars are replaced by texts, one after another. -/
def replaceStars : (pattern : List Char) → (texts : List (List Char)) → List Char
  | [], _ => []
  | c :: pattern, texts =>
    if c = '*' then texts.headD [] ++ replaceStars pattern texts.tail
    else c :: replaceStars pattern texts

/-- The name is the pattern with each star replaced by a text, which may be empty. -/
def CanBecome (pattern name : String) : Prop :=
  ∃ texts : List String, texts.length = pattern.toList.count '*' ∧
    name.toList = replaceStars pattern.toList (texts.map String.toList)

theorem suffixes_eq_tails (chars : List Char) : suffixes chars = chars.tails := by
  induction chars with
  | nil => rfl
  | cons c chars ih => rw [suffixes, ih, List.tails_cons]

/-- A star in front stands for any beginning of the name. -/
theorem describesChars_star_iff :
    describesChars ('*' :: pattern) name = true ↔
      ∃ rest, rest <:+ name ∧ describesChars pattern rest = true := by
  rw [describesChars.eq_def]
  simp only [if_true, List.any_eq_true, suffixes_eq_tails, List.mem_tails]

/-- Any other character in front stands for itself. -/
theorem describesChars_literal_iff {c : Char} (literal : c ≠ '*') :
    describesChars (c :: pattern) name = true ↔
      ∃ rest, name = c :: rest ∧ describesChars pattern rest = true := by
  rw [describesChars.eq_def]
  cases name with
  | nil => simp [literal]
  | cons d rest =>
      simp only [literal, if_false, Bool.and_eq_true, beq_iff_eq, List.cons.injEq]
      constructor
      · rintro ⟨rfl, described⟩
        exact ⟨rest, ⟨rfl, rfl⟩, described⟩
      · rintro ⟨_, ⟨rfl, rfl⟩, described⟩
        exact ⟨rfl, described⟩

/-- The search for what the stars stand for succeeds exactly if there is something: at each
star the text in front of the rest that is described. -/
theorem describesChars_iff :
    describesChars pattern name = true ↔
      ∃ texts : List (List Char), texts.length = pattern.count '*' ∧
        name = replaceStars pattern texts := by
  induction pattern generalizing name with
  | nil => simp [describesChars, replaceStars]
  | cons c pattern ih =>
      by_cases star : c = '*'
      · subst star
        rw [describesChars_star_iff, List.count_cons_self]
        constructor
        · rintro ⟨rest, ⟨front, rfl⟩, described⟩
          obtain ⟨texts, counted, rfl⟩ := ih.mp described
          exact ⟨front :: texts, by rw [List.length_cons, counted], rfl⟩
        · rintro ⟨texts, counted, rfl⟩
          obtain ⟨front, texts, rfl⟩ := List.exists_cons_of_length_eq_add_one counted
          rw [List.length_cons, Nat.add_right_cancel_iff] at counted
          exact ⟨_, List.suffix_append front _, ih.mpr ⟨texts, counted, rfl⟩⟩
      · rw [describesChars_literal_iff star, List.count_cons_of_ne star]
        simp only [replaceStars, star, if_false]
        constructor
        · rintro ⟨rest, rfl, described⟩
          obtain ⟨texts, counted, rfl⟩ := ih.mp described
          exact ⟨texts, counted, rfl⟩
        · rintro ⟨texts, counted, rfl⟩
          exact ⟨_, rfl, ih.mpr ⟨texts, counted, rfl⟩⟩

/-- A pattern describes exactly the names that it can become. -/
theorem describes_iff {pattern name : String} :
    describes pattern name = true ↔ CanBecome pattern name := by
  rw [describes, describesChars_iff, CanBecome]
  constructor
  · rintro ⟨texts, counted, named⟩
    refine ⟨texts.map String.ofList, by rw [List.length_map, counted], ?_⟩
    simpa [Function.comp_def] using named
  · rintro ⟨texts, counted, named⟩
    exact ⟨texts.map String.toList, by rw [List.length_map, counted], named⟩

/-- A list of patterns describes what one of its parts does, without the white space around it. -/
theorem anyDescribes_iff {patterns name : String} :
    anyDescribes patterns name = true ↔
      ∃ part ∈ Text.split ',' patterns, CanBecome (Text.trim part) name := by
  rw [anyDescribes, parts, List.any_map, List.any_eq_true]
  simp only [Function.comp_apply, describes_iff]

end Glob

namespace Memory

variable (memory : Memory) (patterns : String)

/-- Collections that are found stand in the order of the store. -/
theorem keys_getMappings_sublist :
    (memory.getMappings patterns).keys.Sublist memory.collections.keys := by
  rw [getMappings, OrderedMap.keys, OrderedMap.mapValues, List.map_map]
  exact List.filter_sublist.map _

/-- What is found under a name is the metadata of the collection with this name, if one of
the patterns describes it. -/
theorem find?_getMappings (name : String) :
    (memory.getMappings patterns).find? name =
      (if Glob.anyDescribes patterns name then memory.collections.find? name else none).map
        Collection.metadata := by
  rw [← OrderedMap.find?_filter_keys]
  exact Entries.find?_mapValues _ _ _

/-- A pattern describes a name exactly if it becomes the name when each of its stars is
replaced by some text. Asked for a list of patterns, the store answers with the collections
whose names one of them describes, each once, with its metadata, in the order of the store. -/
theorem patterns_discover_collections :
    (∀ pattern name, Glob.describes pattern name = true ↔ Glob.CanBecome pattern name) ∧
      ∃ found : Fields, memory.answer (.getMappings patterns) = .ok (.mappings found) ∧
        found.keys.Sublist memory.collections.keys ∧ found.keys.Nodup ∧
        ∀ name metadata, found.find? name = some metadata ↔
          (∃ part ∈ Text.split ',' patterns, Glob.CanBecome (Text.trim part) name) ∧
            ∃ documents, memory.collections.find? name = some ⟨metadata, documents⟩ := by
  refine ⟨fun _ _ => Glob.describes_iff, memory.getMappings patterns, rfl,
    keys_getMappings_sublist memory patterns, (memory.getMappings patterns).distinct, ?_⟩
  intro name metadata
  rw [find?_getMappings, ← Glob.anyDescribes_iff]
  by_cases described : Glob.anyDescribes patterns name = true
  · simp only [described, if_true, true_and, Option.map_eq_some_iff]
    constructor
    · rintro ⟨⟨_, documents⟩, found, rfl⟩
      exact ⟨documents, found⟩
    · rintro ⟨documents, found⟩
      exact ⟨_, found, rfl⟩
  · simp [described]

/-- Overlapping patterns find a collection once, and collections in the order of the store. -/
example :
    (((empty.createCollection "logs-2024" .null).createCollection "métricas" (.bool true)).getMappings
      "m*tr*s*, *-*,, logs*4").entries = [("logs-2024", .null), ("métricas", .bool true)] := by
  decide

end Memory

end DocQuery
