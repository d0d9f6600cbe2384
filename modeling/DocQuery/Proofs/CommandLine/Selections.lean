import DocQuery.CommandLine.Paths
import DocQuery.Proofs.Maps.FirstOccurrences
import Mathlib.Data.List.Infix

/-!
# Selections that paths describe

The selection that is made of paths has a node for every beginning of a path and no other.
`Describes` says so level by level: the names on a level are those that come next in the
paths, in the order of their first occurrences, and below each stands what the rests of its
paths describe. Adding a path keeps this (`Describes.addPath`), hence so does adding paths one
after another.
-/

namespace DocQuery.SelectionSet

variable {selections : SelectionSet} {paths : List (List String)} {name : String}

/-- The names lead from the top of a selection down to a node with the selection `below` it. -/
inductive Leads : SelectionSet → List String → SelectionSet → Prop
  | here {selections : SelectionSet} : Leads selections [] selections
  | down {selections below : SelectionSet} {selection : Selection} {names : List String}
      (listed : selection ∈ selections) (rest : Leads selection.children names below) :
      Leads selections (selection.name :: names) below

/-- The paths that are given, each as its names; blank ones are left out. -/
def givenPaths (paths : List String) : List (List String) :=
  ((paths.map Text.trim).filter fun path => !path.isEmpty).map segments

/-- The names that stand in paths right behind a beginning, in the order of the paths. -/
def continuations (front : List String) (paths : List (List String)) : List String :=
  paths.filterMap fun path => if front <+: path then path[front.length]? else none

/-- What follows in those paths that start with a name. -/
def rests (name : String) (paths : List (List String)) : List (List String) :=
  paths.filterMap fun path => if path.head? = some name then some path.tail else none

/-- The names on the top level are those that paths start with, in the order of their first
occurrences, and below each the same holds for the rests of the paths. -/
inductive Describes : List (List String) → SelectionSet → Prop
  | levels {paths : List (List String)} {selections : SelectionSet}
      (names : selections.names = (paths.filterMap List.head?).eraseDups)
      (children : ∀ selection ∈ selections,
        Describes (rests selection.name paths) selection.children) :
      Describes paths selections

theorem rests_concat (name : String) (paths : List (List String)) (path : List String) :
    rests name (paths ++ [path]) =
      rests name paths ++ if path.head? = some name then [path.tail] else [] := by
  rw [rests, List.filterMap_append, ← rests]
  by_cases starts : path.head? = some name <;> simp [starts]

theorem mem_rests_iff {rest : List String} : rest ∈ rests name paths ↔ name :: rest ∈ paths := by
  rw [rests, List.mem_filterMap]
  constructor
  · rintro ⟨path, member, found⟩
    cases path with
    | nil => simp at found
    | cons first more =>
        obtain ⟨rfl, rfl⟩ : first = name ∧ more = rest := by simpa using found
        exact member
  · intro member
    exact ⟨name :: rest, member, by simp⟩

theorem continuations_nil (paths : List (List String)) :
    continuations [] paths = paths.filterMap List.head? := by
  apply List.filterMap_congr
  intro path _
  cases path <;> simp

/-- What paths have behind a name and more is what their rests have behind the remainder. -/
theorem continuations_cons (name : String) (front : List String) (paths : List (List String)) :
    continuations (name :: front) paths = continuations front (rests name paths) := by
  rw [continuations, continuations, rests, List.filterMap_filterMap]
  apply List.filterMap_congr
  intro path _
  cases path with
  | nil => simp
  | cons first rest =>
      by_cases same : first = name
      · simp [same, List.cons_prefix_cons]
      · simp [same, List.cons_prefix_cons, Ne.symm same]

namespace Describes

theorem names_eq (describes : Describes paths selections) :
    selections.names = (paths.filterMap List.head?).eraseDups := by
  cases describes with
  | levels names _ => exact names

theorem children (describes : Describes paths selections) {selection : Selection}
    (listed : selection ∈ selections) :
    Describes (rests selection.name paths) selection.children := by
  cases describes with
  | levels _ children => exact children selection listed

theorem nodup_names (describes : Describes paths selections) : selections.names.Nodup :=
  describes.names_eq ▸ FirstOccurrences.nodup_eraseDups _

/-- A name is on the top level exactly if a path starts with it. -/
theorem mem_names_iff (describes : Describes paths selections) :
    name ∈ selections.names ↔ ∃ rest, name :: rest ∈ paths := by
  rw [describes.names_eq, List.mem_eraseDups, List.mem_filterMap]
  constructor
  · rintro ⟨path, member, starts⟩
    obtain ⟨rest, rfl⟩ := List.head?_eq_some_iff.mp starts
    exact ⟨rest, member⟩
  · rintro ⟨rest, member⟩
    exact ⟨_, member, rfl⟩

end Describes

/-- Changing what is below a name adds the name behind the others, if it is new. -/
theorem names_update (name : String) (change : SelectionSet → SelectionSet)
    (selections : SelectionSet) :
    (update name change selections).names =
      if name ∈ selections.names then selections.names else selections.names ++ [name] := by
  induction selections with
  | nil => rfl
  | cons selection others ih =>
      unfold names at ih ⊢
      rw [update]
      by_cases same : selection.name = name
      · simp [same]
      · rw [if_neg same, List.map_cons, ih, List.map_cons]
        by_cases listed : name ∈ others.map Selection.name <;> simp [listed, Ne.symm same]

/-- A node after a change has another name and was there before, or it is the changed one. -/
theorem mem_update {change : SelectionSet → SelectionSet} {selection : Selection}
    (distinct : selections.names.Nodup) (listed : selection ∈ update name change selections) :
    (selection ∈ selections ∧ selection.name ≠ name) ∨
      (∃ old ∈ selections, old.name = name ∧ selection = ⟨name, change old.children⟩) ∨
      (name ∉ selections.names ∧ selection = ⟨name, change []⟩) := by
  induction selections with
  | nil =>
      rw [update, List.mem_singleton] at listed
      exact .inr (.inr ⟨List.not_mem_nil, listed⟩)
  | cons first others ih =>
      unfold names at ih distinct ⊢
      rw [List.map_cons, List.nodup_cons] at distinct
      rw [update] at listed
      by_cases same : first.name = name
      · rw [if_pos same, List.mem_cons] at listed
        rcases listed with changed | other
        · exact .inr (.inl ⟨first, List.mem_cons_self, same, changed⟩)
        · refine .inl ⟨List.mem_cons_of_mem _ other, ?_⟩
          rintro rfl
          exact distinct.1 (same ▸ List.mem_map_of_mem other)
      · rw [if_neg same, List.mem_cons] at listed
        rcases listed with rfl | other
        · exact .inl ⟨List.mem_cons_self, same⟩
        · rcases ih distinct.2 other with ⟨member, differ⟩ | ⟨old, member, changed⟩ | ⟨fresh, new⟩
          · exact .inl ⟨List.mem_cons_of_mem _ member, differ⟩
          · exact .inr (.inl ⟨old, List.mem_cons_of_mem _ member, changed⟩)
          · refine .inr (.inr ⟨?_, new⟩)
            rw [List.map_cons, List.mem_cons]
            exact not_or.mpr ⟨Ne.symm same, fresh⟩

/-- A change that does nothing below a selected name does nothing. -/
theorem update_eq_self {change : SelectionSet → SelectionSet} (known : name ∈ selections.names)
    (idle : ∀ selection ∈ selections, selection.name = name →
      change selection.children = selection.children) :
    update name change selections = selections := by
  induction selections with
  | nil => cases known
  | cons first others ih =>
      rw [update]
      by_cases same : first.name = name
      · rw [if_pos same, idle first List.mem_cons_self same, ← same]
        cases first
        rfl
      · have later : name ∈ names others := by
          rcases List.mem_cons.mp known with here | later
          · exact absurd here.symm same
          · exact later
        rw [if_neg same, ih later fun selection member =>
          idle selection (List.mem_cons_of_mem _ member)]

namespace Describes

/-- Without paths nothing is selected. -/
theorem nil : Describes [] [] := .levels rfl fun _ listed => by cases listed

/-- Adding a path to what paths describe makes what these paths and the further one describe. -/
theorem addPath (describes : Describes paths selections) (path : List String) :
    Describes (paths ++ [path]) (addPath path selections) := by
  induction path generalizing paths selections with
  | nil =>
      refine .levels ?_ fun selection listed => ?_
      · rw [SelectionSet.addPath, describes.names_eq, List.filterMap_append]
        rw [List.filterMap_cons_none rfl, List.filterMap_nil, List.append_nil]
      · rw [rests_concat]
        simpa using describes.children listed
  | cons name rest ih =>
      refine .levels ?names fun selection listed => ?children
      case names =>
        rw [SelectionSet.addPath, names_update, List.filterMap_append, describes.names_eq]
        simp only [List.mem_eraseDups]
        exact (FirstOccurrences.eraseDups_concat _ name).symm
      case children =>
        rw [rests_concat]
        rcases mem_update describes.nodup_names listed with
          ⟨member, differ⟩ | ⟨old, member, named, rfl⟩ | ⟨fresh, rfl⟩
        · -- The path goes by another name.
          simpa [Ne.symm differ] using describes.children member
        · have before := describes.children member
          rw [named] at before
          simpa using ih before
        · -- No path has this name so far.
          have none : rests name paths = [] := by
            rw [List.eq_nil_iff_forall_not_mem]
            intro other member
            exact fresh (describes.mem_names_iff.mpr ⟨other, mem_rests_iff.mp member⟩)
          rw [none]
          simpa using ih nil

/-- Adding paths one after another makes what all of them describe. -/
theorem addPaths (describes : Describes paths selections) (more : List (List String)) :
    Describes (paths ++ more)
      (more.foldl (fun selections path => SelectionSet.addPath path selections) selections) := by
  induction more generalizing paths selections with
  | nil => simpa using describes
  | cons path more ih => simpa using ih (describes.addPath path)

/-- Adding a path that a path starts with changes nothing. -/
theorem addPath_eq_self (describes : Describes paths selections) {path other : List String}
    (member : other ∈ paths) (starts : path <+: other) :
    SelectionSet.addPath path selections = selections := by
  induction path generalizing paths selections other with
  | nil => rfl
  | cons name rest ih =>
      obtain ⟨more, rfl⟩ := starts
      have known := describes.mem_names_iff.mpr ⟨_, member⟩
      refine update_eq_self known fun selection listed named => ?_
      have rested : rest ++ more ∈ rests selection.name paths :=
        mem_rests_iff.mpr (named ▸ member)
      exact ih (describes.children listed) rested (List.prefix_append rest more)

/-- The names below a node are those that paths have behind the names leading there. -/
theorem names_of_leads (describes : Describes paths selections) {front : List String}
    {below : SelectionSet} (leads : Leads selections front below) :
    below.names = (continuations front paths).eraseDups := by
  induction leads generalizing paths with
  | here => rw [continuations_nil, describes.names_eq]
  | down listed _ ih => rw [continuations_cons, ih (describes.children listed)]

/-- Names lead to a node exactly if a path starts with them. -/
theorem exists_leads_iff (describes : Describes paths selections) {names : List String} :
    (∃ below, Leads selections names below) ↔ names = [] ∨ ∃ path ∈ paths, names <+: path := by
  induction names generalizing paths selections with
  | nil => exact iff_of_true ⟨_, .here⟩ (.inl rfl)
  | cons name names ih =>
      constructor
      · rintro ⟨below, leads⟩
        cases leads with
        | @down _ _ selection _ listed rest =>
            right
            rcases (ih (describes.children listed)).mp ⟨below, rest⟩ with
              rfl | ⟨path, member, starts⟩
            · obtain ⟨rest, member⟩ := describes.mem_names_iff.mp (List.mem_map_of_mem listed)
              exact ⟨_, member, List.cons_prefix_cons.mpr ⟨rfl, List.nil_prefix⟩⟩
            · exact ⟨_, mem_rests_iff.mp member, List.cons_prefix_cons.mpr ⟨rfl, starts⟩⟩
      · rintro (impossible | ⟨path, member, ⟨more, rfl⟩⟩)
        · cases impossible
        · obtain ⟨selection, listed, rfl⟩ :=
            List.mem_map.mp (describes.mem_names_iff.mpr ⟨_, member⟩)
          obtain ⟨below, leads⟩ := (ih (describes.children listed)).mpr
            (.inr ⟨_, mem_rests_iff.mpr member, List.prefix_append names more⟩)
          exact ⟨below, .down listed leads⟩

end Describes

theorem ofPaths_eq_foldl (paths : List String) :
    ofPaths paths =
      (givenPaths paths).foldl (fun selections path => addPath path selections) [] := by
  rw [ofPaths, givenPaths, List.foldl_map]

/-- The selection made of paths is what these paths describe. -/
theorem describes_ofPaths (paths : List String) : Describes (givenPaths paths) (ofPaths paths) := by
  rw [ofPaths_eq_foldl]
  exact Describes.nil.addPaths (givenPaths paths)

/-- In the selection made of paths no two names below one node are the same, and they stand in
the order in which they first occur in the paths. Names lead to a node exactly if a path starts
with them. A path that another one before it starts with, or that is given again, makes no
difference. -/
theorem paths_merge_at_shared_beginnings (paths : List String) :
    (∀ front below, Leads (ofPaths paths) front below →
      below.names.Nodup ∧
        below.names = (continuations front (givenPaths paths)).eraseDups) ∧
    (∀ names, names ≠ [] →
      ((∃ below, Leads (ofPaths paths) names below) ↔
        ∃ path ∈ givenPaths paths, names <+: path)) ∧
    ∀ path more, (∃ other ∈ givenPaths paths, segments (Text.trim path) <+: other) →
      ofPaths (paths ++ path :: more) = ofPaths (paths ++ more) := by
  have describes := describes_ofPaths paths
  refine ⟨?levels, ?nodes, ?repeated⟩
  case levels =>
    intro front below leads
    have named := describes.names_of_leads leads
    exact ⟨named ▸ FirstOccurrences.nodup_eraseDups _, named⟩
  case nodes =>
    intro names inhabited
    rw [describes.exists_leads_iff, or_iff_right inhabited]
  case repeated =>
    rintro path more ⟨other, member, starts⟩
    have idle : addPath (segments (Text.trim path)) (ofPaths paths) = ofPaths paths :=
      describes.addPath_eq_self member starts
    rw [ofPaths_eq_foldl] at idle
    rw [ofPaths_eq_foldl, ofPaths_eq_foldl]
    by_cases blank : (Text.trim path).isEmpty = true
    · simp [givenPaths, blank]
    · simpa [givenPaths, blank] using congrArg
        (fun selections => (givenPaths more).foldl
          (fun selections path => addPath path selections) selections) idle

/-- Paths with a shared beginning, an empty name and white space around them. The path `max.`
ends in an empty name, with which another path goes on. -/
theorem paths_of_aggregations_merge :
    let paths := ["max.price", "min.price", " ", " max..stock"]
    let max : SelectionSet := [⟨"price", []⟩, ⟨"", [⟨"stock", []⟩]⟩]
    Leads (ofPaths paths) ["max"] max ∧
      max.names = (continuations ["max"] (givenPaths paths)).eraseDups ∧
      (∃ below, Leads (ofPaths paths) ["max", "", "stock"] below) ∧
      ofPaths (paths ++ ["max.", "id"]) = ofPaths (paths ++ ["id"]) := by
  intro paths max
  obtain ⟨levels, nodes, repeated⟩ := paths_merge_at_shared_beginnings paths
  have made : ofPaths paths = [⟨"max", max⟩, ⟨"min", [⟨"price", []⟩]⟩] := rfl
  have leads : Leads (ofPaths paths) ["max"] max := by
    rw [made]
    exact .down List.mem_cons_self .here
  exact ⟨leads, (levels _ _ leads).2, (nodes _ (by decide)).mpr (by decide),
    repeated "max." ["id"] (by decide)⟩

end DocQuery.SelectionSet
