import Mathlib.Data.List.Forall2
import DocQuery.Cluster.Endpoint
import DocQuery.Proofs.Cluster.Escaping

/-!
# Addresses of documents

The address of a document is that of a host with the collection, `_doc` and the id behind
its path. Segments are escaped, so whatever stands in a name is read back from its segment,
with two exceptions: tabs and line ends are dropped, and a name of one or two dots is no
segment at all. `documents_are_addressed_apart` says that names without these can be read
back from the address of their document, that others cannot, and that no two documents with
such names share an address.
-/

namespace DocQuery.Cluster

/-- A character is written in lower case as it is, unless it is a capital letter. -/
theorem toLower_cases {c d : Char} (folded : c.toLower = d) :
    c = d ∨ c.toNat ≤ 'Z'.toNat ∧ d.toNat = c.toNat + 32 ∧ 'a'.toNat ≤ d.toNat := by
  subst folded
  unfold Char.toLower
  split
  case isTrue upper =>
    have low : 65 ≤ c.val.toNat := upper.1
    have high : c.val.toNat ≤ 90 := upper.2
    have distance : ('a'.val - 'A'.val).toNat = 32 := rfl
    have sum : (c.val + ('a'.val - 'A'.val)).toNat = c.val.toNat + 32 := by
      rw [UInt32.toNat_add, distance]
      omega
    refine .inr ⟨high, sum, ?_⟩
    show 97 ≤ (c.val + ('a'.val - 'A'.val)).toNat
    omega
  case isFalse => exact .inl rfl

/-- A character whose lower case comes before the letters is written so itself. -/
theorem eq_of_toLower_eq {c d : Char} (folded : c.toLower = d) (early : d.toNat < 'a'.toNat) :
    c = d := by
  rcases toLower_cases folded with same | ⟨_, _, late⟩
  · exact same
  · omega

namespace Path

variable {path front start : List String} {name segment last : String}

/-- What of a path stands in front of a segment that is appended to it. -/
def onward (path : List String) : List String := if path = [""] then [] else path

/-- What of a path stands in front of segments that take the place of an empty one at its
end. -/
def base (path : List String) : List String := onward (withoutTrailing path)

/-- Behind a segment that is not empty, all of the path stands in front. -/
theorem onward_concat (inhabited : segment ≠ "") :
    onward (path ++ [segment]) = path ++ [segment] := by
  refine if_neg fun sole => ?_
  rcases List.append_eq_singleton_iff.mp sole with ⟨_, same⟩ | ⟨_, none⟩
  · exact inhabited (List.singleton_inj.mp same)
  · cases none

/-- A path continues another one with a segment for each of some names, and every name is
read back from its segment. -/
def Continues (path start names : List String) : Prop :=
  ∃ segments, path = start ++ segments ∧
    List.Forall₂ (fun segment name => unescape segment.toList = Text.bytes name) segments names

/-- A name that a segment can hold: not dots alone, and no tabs and line ends in it. -/
def Holdable (name : String) : Prop :=
  name ≠ "." ∧ name ≠ ".." ∧ ∀ c ∈ name.toList, isDropped c = false

instance : DecidablePred Holdable := fun name =>
  have := List.decidableBAll (fun c => isDropped c = false) name.toList
  inferInstanceAs (Decidable (_ ∧ _ ∧ _))

/-- What of a name is not dropped. -/
def undropped (name : String) : String := String.ofList (name.toList.filter fun c => !isDropped c)

/-- The segment for a name. -/
def segmentOf (name : String) : String :=
  String.ofList (escape inSegment (name.toList.filter fun c => !isDropped c))

/-- A name is left as it is if nothing in it is dropped. -/
theorem undropped_eq_self_iff :
    undropped name = name ↔ ∀ c ∈ name.toList, isDropped c = false := by
  constructor
  · intro same
    have kept := congrArg String.toList same
    rw [undropped, String.toList_ofList, List.filter_eq_self] at kept
    intro c member
    simpa using kept c member
  · intro clean
    have kept : name.toList.filter (fun c => !isDropped c) = name.toList :=
      List.filter_eq_self.mpr fun c member => by simp [clean c member]
    rw [undropped, kept, String.ofList_toList]

/-- What of a name is not dropped is read back from its segment. -/
theorem unescape_segmentOf (name : String) :
    unescape (segmentOf name).toList = Text.bytes (undropped name) := by
  rw [segmentOf, String.toList_ofList, unescape_escape rfl, Text.bytes, undropped,
    String.toList_ofList]

/-- A name that a segment can hold is read back from its segment. -/
theorem unescape_segmentOf_of_holdable (holdable : Holdable name) :
    unescape (segmentOf name).toList = Text.bytes name := by
  rw [unescape_segmentOf, undropped_eq_self_iff.mpr holdable.2.2]

/-- No slash stands in a segment for a name. -/
theorem slash_not_mem_segmentOf (name : String) : '/' ∉ (segmentOf name).toList := by
  rw [segmentOf, String.toList_ofList]
  exact not_mem_escape rfl (by decide) rfl _

/-- A dot, escaped or not, is read as a dot. -/
theorem unescape_dot {piece : List Char}
    (dot : piece.map Char.toLower = ['.'] ∨ piece.map Char.toLower = ['%', '2', 'e'])
    (rest : List Char) : unescape (piece ++ rest) = 46 :: unescape rest := by
  rcases dot with plain | escaped
  · obtain ⟨c, rfl, folded⟩ := List.map_eq_singleton_iff.mp plain
    obtain rfl := eq_of_toLower_eq folded (by decide)
    rfl
  · obtain ⟨sign, low, rfl, folded, later⟩ := List.map_eq_cons_iff.mp escaped
    obtain ⟨high, last, rfl, highFolded, later⟩ := List.map_eq_cons_iff.mp later
    obtain ⟨low, rfl, lowFolded⟩ := List.map_eq_singleton_iff.mp later
    obtain rfl := eq_of_toLower_eq folded (by decide)
    obtain rfl := eq_of_toLower_eq highFolded (by decide)
    have either : low = 'e' ∨ low = 'E' := by
      rcases toLower_cases lowFolded with same | ⟨_, code, _⟩
      · exact .inl same
      · right
        have code : 101 = low.toNat + 32 := code
        exact Char.toNat_inj.mp (show low.toNat = 69 by omega)
    rcases either with rfl | rfl <;> rfl

/-- A segment that stands for nothing is read as a dot. -/
theorem unescape_of_isCurrent (current : isCurrent segment = true) :
    unescape segment.toList = Text.bytes "." := by
  have dot : segment.toList.map Char.toLower = ['.'] ∨
      segment.toList.map Char.toLower = ['%', '2', 'e'] := by
    simpa [isCurrent, ← String.toList_inj] using current
  have read := unescape_dot dot []
  rw [List.append_nil] at read
  exact read

/-- A segment that takes one away is read as two dots. -/
theorem unescape_of_isParent (parent : isParent segment = true) :
    unescape segment.toList = Text.bytes ".." := by
  have dots : ∃ first second : List Char, segment.toList.map Char.toLower = first ++ second ∧
      (first = ['.'] ∨ first = ['%', '2', 'e']) ∧ (second = ['.'] ∨ second = ['%', '2', 'e']) := by
    simp only [isParent, List.contains_cons, List.contains_nil, Bool.or_false, Bool.or_eq_true,
      beq_iff_eq, ← String.toList_inj, String.toList_ofList] at parent
    rcases parent with same | same | same | same
    · exact ⟨['.'], ['.'], same, .inl rfl, .inl rfl⟩
    · exact ⟨['.'], ['%', '2', 'e'], same, .inl rfl, .inr rfl⟩
    · exact ⟨['%', '2', 'e'], ['.'], same, .inr rfl, .inl rfl⟩
    · exact ⟨['%', '2', 'e'], ['%', '2', 'e'], same, .inr rfl, .inr rfl⟩
  obtain ⟨_, _, folded, first, second⟩ := dots
  obtain ⟨piece, rest, split, rfl, rfl⟩ := List.map_eq_append_iff.mp folded
  have readRest := unescape_dot second []
  rw [List.append_nil] at readRest
  rw [split, unescape_dot first, readRest]
  rfl

/-- What is read back as a name that is not dots alone is appended as it is. -/
theorem close_of_read (read : unescape segment.toList = Text.bytes name) (current : name ≠ ".")
    (parent : name ≠ "..") : close path segment = path ++ [segment] := by
  rw [close, if_neg, if_neg]
  · intro dot
    exact current (Text.bytes_injective (read.symm.trans (unescape_of_isCurrent dot)))
  · intro dots
    exact parent (Text.bytes_injective (read.symm.trans (unescape_of_isParent dots)))

/-- With dots resolved, a path ends with its last segment or with an empty one. -/
theorem last_of_close (ends : close path segment = front ++ [last]) :
    last = "" ∨ last = segment := by
  rw [close] at ends
  split at ends
  · exact .inl (List.singleton_inj.mp (List.append_inj' ends rfl).2).symm
  · split at ends
    · exact .inl (List.singleton_inj.mp (List.append_inj' ends rfl).2).symm
    · exact .inr (List.singleton_inj.mp (List.append_inj' ends rfl).2).symm

/-- A name that a segment can hold is appended as its segment, in place of the only segment
of a path if that is empty. -/
theorem append_of_holdable (holdable : Holdable name) :
    append path name = onward path ++ [segmentOf name] := by
  have read := unescape_segmentOf_of_holdable holdable
  obtain ⟨current, parent, _⟩ := holdable
  rw [append, if_neg (not_or.mpr ⟨current, parent⟩), ← segmentOf]
  exact close_of_read read current parent

/-- A name of dots alone is not appended. -/
theorem append_of_dots (dots : name = "." ∨ name = "..") : append path name = path := by
  rw [append, if_pos dots]

/-- If a name that was appended is read back from the last segment, a segment can hold it. -/
theorem holdable_of_append (inhabited : name ≠ "") (undotted : ¬ (name = "." ∨ name = ".."))
    (ends : append path name = front ++ [last])
    (read : unescape last.toList = Text.bytes name) : Holdable name := by
  obtain ⟨current, parent⟩ := not_or.mp undotted
  rw [append, if_neg undotted, ← segmentOf] at ends
  rcases last_of_close ends with rfl | rfl
  · exact absurd (Text.bytes_injective read.symm) inhabited
  · have kept : undropped name = name :=
      Text.bytes_injective ((unescape_segmentOf name).symm.trans read)
    exact ⟨current, parent, undropped_eq_self_iff.mp kept⟩

/-- Names that segments can hold differ in their segments. -/
theorem eq_of_segmentOf_eq {other : String} (holdable : Holdable name)
    (otherHoldable : Holdable other) (same : segmentOf name = segmentOf other) : name = other := by
  have read := unescape_segmentOf_of_holdable holdable
  rw [same, unescape_segmentOf_of_holdable otherHoldable] at read
  exact (Text.bytes_injective read).symm

/-- The segment for `_doc` is `_doc`. -/
theorem append_doc (path : List String) : append path "_doc" = onward path ++ ["_doc"] :=
  append_of_holdable (by decide)

/-- A name that is not empty, and that a segment can hold, has a segment that is not empty. -/
theorem segmentOf_ne_empty (inhabited : name ≠ "") (holdable : Holdable name) :
    segmentOf name ≠ "" := by
  intro empty
  have read := unescape_segmentOf_of_holdable holdable
  rw [empty] at read
  exact inhabited (Text.bytes_injective read.symm)

variable {collection id : String}

/-- The path of a document, for names that segments can hold. -/
theorem appendAll_of_holdable (inhabited : collection ≠ "")
    (collectionHoldable : Holdable collection) (idHoldable : Holdable id) :
    appendAll path [collection, "_doc", id] =
      base path ++ [segmentOf collection, "_doc", segmentOf id] := by
  show append (append (append (withoutTrailing path) collection) "_doc") id = _
  rw [append_of_holdable collectionHoldable, append_doc,
    onward_concat (segmentOf_ne_empty inhabited collectionHoldable),
    append_of_holdable idHoldable, onward_concat (by decide), List.append_assoc,
    List.append_assoc]
  rfl

/-- Both names of a document are read back from its path exactly if segments can hold them. -/
theorem continues_appendAll_iff (inhabited : collection ≠ "") (idInhabited : id ≠ "") :
    Continues (appendAll path [collection, "_doc", id]) (base path) [collection, "_doc", id] ↔
      Holdable collection ∧ Holdable id := by
  constructor
  · rintro ⟨segments, reached, read⟩
    obtain ⟨first, _, readFirst, second, rfl⟩ := List.forall₂_cons_right_iff.mp read
    obtain ⟨middle, _, _, third, rfl⟩ := List.forall₂_cons_right_iff.mp second
    obtain ⟨last, _, readLast, rest, rfl⟩ := List.forall₂_cons_right_iff.mp third
    obtain rfl := List.forall₂_nil_right_iff.mp rest
    have reached : append (append (append (withoutTrailing path) collection) "_doc") id =
        (base path ++ [first] ++ [middle]) ++ [last] := by
      rw [List.append_assoc, List.append_assoc]
      exact reached
    -- The id is read from the last segment, so that is not the one of `_doc`.
    have idUndotted : ¬ (id = "." ∨ id = "..") := by
      intro dots
      rw [append_of_dots dots, append_doc] at reached
      obtain rfl := List.singleton_inj.mp (List.append_inj' reached rfl).2
      have same : "_doc" = id := Text.bytes_injective readLast
      rcases dots with rfl | rfl <;> revert same <;> decide
    have idHoldable := holdable_of_append idInhabited idUndotted reached readLast
    rw [append_of_holdable idHoldable, append_doc, onward_concat (by decide)] at reached
    have before := (List.append_inj' (List.append_inj' reached rfl).1 rfl).1
    -- Likewise the collection, since the path in front has no room for another segment.
    have undotted : ¬ (collection = "." ∨ collection = "..") := by
      intro dots
      rw [append_of_dots dots] at before
      exact absurd before (by simp [base])
    have reachedFirst : append (withoutTrailing path) collection = base path ++ [first] := by
      rw [onward] at before
      split at before
      · simp at before
      · exact before
    exact ⟨holdable_of_append inhabited undotted reachedFirst readFirst, idHoldable⟩
  · rintro ⟨collectionHoldable, idHoldable⟩
    refine ⟨_, appendAll_of_holdable inhabited collectionHoldable idHoldable, ?_⟩
    exact .cons (unescape_segmentOf_of_holdable collectionHoldable)
      (.cons rfl (.cons (unescape_segmentOf_of_holdable idHoldable) .nil))

/-- The text of a path that goes on is that of its parts. -/
theorem text_append (front segments : List String) :
    text (front ++ segments) = text front ++ text segments := by
  rw [text, List.map_append, String.join_append]
  rfl

/-- The text of a path puts slashes between its segments and what stands in front. -/
theorem append_text (chars : List Char) (segments : List String) :
    chars ++ (text segments).toList =
      ['/'].intercalate (chars :: segments.map String.toList) := by
  induction segments generalizing chars with
  | nil => simp [text]
  | cons segment rest ih =>
      have goesOn : (text (segment :: rest)).toList =
          ['/'] ++ (segment.toList ++ (text rest).toList) := by
        simp [text]
      rw [goesOn, List.map_cons, List.intercalate_cons_cons, ih, List.append_assoc]

/-- Paths of segments without slashes differ in their texts. -/
theorem eq_of_text_eq {segments others : List String}
    (unbroken : ∀ segment ∈ segments, '/' ∉ segment.toList)
    (othersUnbroken : ∀ segment ∈ others, '/' ∉ segment.toList)
    (same : text segments = text others) : segments = others := by
  have read : ∀ {segments : List String}, (∀ segment ∈ segments, '/' ∉ segment.toList) →
      (text segments).toList.splitOn '/' = [] :: segments.map String.toList := by
    intro segments unbroken
    have joined := append_text [] segments
    rw [List.nil_append] at joined
    rw [joined, List.splitOn_intercalate]
    · intro piece member
      rcases List.mem_cons.mp member with rfl | listed
      · exact List.not_mem_nil
      · obtain ⟨segment, inside, rfl⟩ := List.mem_map.mp listed
        exact unbroken segment inside
    · exact List.cons_ne_nil _ _
  have pieces := read unbroken
  rw [same, read othersUnbroken, List.cons.injEq] at pieces
  exact (List.map_injective_iff.mpr (fun _ _ => String.toList_injective) pieces.2).symm

end Path

/-- The address of a document is that of the host but for its path and what is wanted of the
document. -/
theorem url_of_getById (host : Url) (get : GetById) :
    (request host (.getById get)).url =
      { withSource { host with fragment := none } get.source with
        path := Path.appendAll host.path [get.collection, "_doc", get.id] } := by
  obtain ⟨collection, id, source⟩ := get
  cases source <;> rfl

/-- The text of a path stands in the text of an address, between parts that do not depend
on it. -/
theorem exists_text_of_path (url : Url) :
    ∃ before after, ∀ path, Url.text { url with path } = before ++ Path.text path ++ after := by
  refine ⟨url.scheme.name ++ "://" ++ url.credentialsText ++ url.host.text ++ url.portText,
    url.queryText ++ ((url.fragment.map ("#" ++ ·)).getD ""), fun path => ?_⟩
  rw [← String.append_assoc]
  rfl

/-- Whatever the path of the host, and whichever fields are wanted: from the address of a
document both of its names are read back exactly if segments can hold them, and documents
with such names have addresses of their own. -/
theorem documents_are_addressed_apart (host : Url) (source : SourceFilter) :
    (∀ collection id, collection ≠ "" → id ≠ "" →
      (Path.Continues (request host (.getById ⟨collection, id, source⟩)).url.path
          (Path.base host.path) [collection, "_doc", id] ↔
        Path.Holdable collection ∧ Path.Holdable id)) ∧
    ∀ collection id other otherId, collection ≠ "" → Path.Holdable collection →
      Path.Holdable id → other ≠ "" → Path.Holdable other → Path.Holdable otherId →
      (collection, id) ≠ (other, otherId) →
      (request host (.getById ⟨collection, id, source⟩)).url.text ≠
        (request host (.getById ⟨other, otherId, source⟩)).url.text := by
  constructor
  · intro collection id inhabited idInhabited
    rw [url_of_getById]
    exact Path.continues_appendAll_iff inhabited idInhabited
  · intro collection id other otherId inhabited holdable idHoldable otherInhabited otherHoldable
      otherIdHoldable differ same
    obtain ⟨before, after, address⟩ :=
      exists_text_of_path (withSource { host with fragment := none } source)
    rw [url_of_getById, url_of_getById, address, address, String.append_left_inj,
      String.append_right_inj, Path.appendAll_of_holdable inhabited holdable idHoldable,
      Path.appendAll_of_holdable otherInhabited otherHoldable otherIdHoldable,
      Path.text_append, Path.text_append, String.append_right_inj] at same
    have unbroken : ∀ name other : String, ∀ segment ∈
        [Path.segmentOf name, "_doc", Path.segmentOf other], '/' ∉ segment.toList := by
      intro name other segment member
      simp only [List.mem_cons, List.not_mem_nil, or_false] at member
      rcases member with rfl | rfl | rfl
      · exact Path.slash_not_mem_segmentOf name
      · decide
      · exact Path.slash_not_mem_segmentOf other
    have segments := Path.eq_of_text_eq (unbroken _ _) (unbroken _ _) same
    simp only [List.cons.injEq, true_and, and_true] at segments
    exact differ (Prod.ext (Path.eq_of_segmentOf_eq holdable otherHoldable segments.1)
      (Path.eq_of_segmentOf_eq idHoldable otherIdHoldable segments.2))

/-- Behind the path of a host, an id with characters that have a meaning in addresses is read
back, and its escaped form is the id of another document. -/
theorem escaped_ids_are_addressed_apart :
    let host : Url := ⟨.https, "", "", .domain "proxy.local", none, ["es", ""], none, none⟩
    Path.Continues (request host (.getById ⟨"my index", "a/b?c%", .all⟩)).url.path ["es"]
        ["my index", "_doc", "a/b?c%"] ∧
      (request host (.getById ⟨"my index", "a/b", .all⟩)).url.text ≠
        (request host (.getById ⟨"my index", "a%2Fb", .all⟩)).url.text := by
  intro host
  obtain ⟨read, apart⟩ := documents_are_addressed_apart host .all
  exact ⟨(read "my index" "a/b?c%" (by decide) (by decide)).mpr ⟨by decide, by decide⟩,
    apart "my index" "a/b" "my index" "a%2Fb" (by decide) (by decide) (by decide) (by decide)
      (by decide) (by decide) (by decide)⟩

/-- Ids of dots alone have the same address, which is not one of a document, and an id with a
tab has the address of the id without it. -/
theorem dots_and_tabs_are_not_addressed :
    let host : Url := ⟨.http, "", "", .domain "es1", some 9200, [""], none, none⟩
    let address := fun id => (request host (.getById ⟨"logs", id, .all⟩)).url
    (address ".").text = "http://es1:9200/logs/_doc" ∧
      (address "..").text = "http://es1:9200/logs/_doc" ∧
      ¬ Path.Continues (address ".").path (Path.base host.path) ["logs", "_doc", "."] ∧
      (address "a\tb").text = "http://es1:9200/logs/_doc/ab" ∧
      (address "ab").text = "http://es1:9200/logs/_doc/ab" ∧
      ¬ Path.Continues (address "a\tb").path (Path.base host.path) ["logs", "_doc", "a\tb"] := by
  have unread : ∀ id, id ≠ "" → ¬ Path.Holdable id →
      ¬ Path.Continues (Path.appendAll [""] ["logs", "_doc", id]) (Path.base [""])
        ["logs", "_doc", id] := fun id inhabited unholdable read =>
    unholdable ((Path.continues_appendAll_iff (by decide) inhabited).mp read).2
  exact ⟨by decide, by decide, unread "." (by decide) (by decide), by decide, by decide,
    unread "a\tb" (by decide) (by decide)⟩

end DocQuery.Cluster
