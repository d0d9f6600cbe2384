import DocQuery.Cluster.Encoding

/-!
# Paths of addresses

A path is a list of segments, escaped, and never empty: `/` has one empty
segment. A segment of one dot stands for nothing and one of two dots takes the
segment before it away; behind either, at the end of a path, an empty segment is
left. A segment that looks like a drive letter is not taken away.
-/

namespace DocQuery.Cluster.Path

/-- Whether a segment is one dot, escaped or not. -/
def isCurrent (segment : String) : Bool :=
  [".", "%2e"].contains (String.ofList (segment.toList.map Char.toLower))

/-- Whether a segment is two dots, escaped or not. -/
def isParent (segment : String) : Bool :=
  ["..", ".%2e", "%2e.", "%2e%2e"].contains (String.ofList (segment.toList.map Char.toLower))

/-- Whether a segment looks like a drive letter. -/
def isDriveLetter (segment : String) : Bool :=
  match segment.toList with
  | [letter, mark] => letter.isAlpha && (mark == ':' || mark == '|')
  | _ => false

/-- Takes the last segment away. -/
def parent (path : List String) : List String :=
  match path.getLast? with
  | some last => if isDriveLetter last then path else path.dropLast
  | none => path

/-- Goes on to a segment that others follow. -/
def enter (path : List String) (segment : String) : List String :=
  if isParent segment then parent path
  else if isCurrent segment then path
  else path ++ [segment]

/-- Ends a path with a segment. -/
def close (path : List String) (segment : String) : List String :=
  if isParent segment then parent path ++ [""]
  else if isCurrent segment then path ++ [""]
  else path ++ [segment]

/-- The path that segments describe, dots resolved. -/
def ofSegments (segments : List String) : List String :=
  close (segments.dropLast.foldl enter []) (segments.getLast?.getD "")

/-- Reads a path, behind its first slash. -/
def read (chars : List Char) : List String :=
  ofSegments (((chars.map fun c => if c = '\\' then '/' else c).splitOn '/').map fun segment =>
    String.ofList (escape inPath segment))

/-- Characters that an address drops wherever they stand. -/
def isDropped (c : Char) : Bool := c == '\t' || c == '\n' || c == '\r'

/-- Appends a segment; a path of one empty segment is replaced by it. Segments of
one or two dots are not appended. -/
def append (path : List String) (segment : String) : List String :=
  if segment = "." ∨ segment = ".." then path
  else
    close (if path = [""] then [] else path)
      (String.ofList (escape inSegment (segment.toList.filter fun c => !isDropped c)))

/-- The path without an empty segment at its end; the only segment stays. -/
def withoutTrailing (path : List String) : List String :=
  if 2 ≤ path.length ∧ path.getLast? = some "" then path.dropLast else path

/-- Appends segments, in place of an empty one at the end. -/
def appendAll (path segments : List String) : List String :=
  segments.foldl append (withoutTrailing path)

/-- The text of a path. -/
def text (path : List String) : String := String.join (path.map fun segment => "/" ++ segment)

end DocQuery.Cluster.Path
