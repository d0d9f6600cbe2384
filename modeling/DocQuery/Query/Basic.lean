import DocQuery.Query.Range

/-!
# Native queries

The store selects documents by queries: ranges, and lists of queries combined
under clauses. The query without clauses selects every document.

Clauses and operators appear in the JSON form in the order in which they were
first given; a clause without queries does not appear.
-/

namespace DocQuery

/-- How the queries of a list combine. -/
inductive Clause where
  | must
  | mustNot
  | filter
  | should
  deriving DecidableEq, Repr

namespace Clause

/-- Every clause. -/
def all : List Clause := [.must, .mustNot, .filter, .should]

/-- The name of a clause in queries. -/
def name : Clause → String
  | .must => "must"
  | .mustNot => "must_not"
  | .filter => "filter"
  | .should => "should"

/-- The clause with a given name. -/
def ofName? (name : String) : Option Clause := all.find? fun clause => clause.name == name

end Clause

/-- A query in the language of the store. -/
inductive Query where
  /-- Queries combined under clauses, one list to a clause. -/
  | bool (clauses : List (Clause × List Query))
  | range (bounds : Range)

/-- The lists of a combined query. -/
abbrev Clauses := List (Clause × List Query)

namespace Clauses

/-- The queries under a clause. -/
def under (clauses : Clauses) (clause : Clause) : List Query :=
  (Entries.find? clause clauses).getD []

/-- Adds a query under a clause. -/
def push (clauses : Clauses) (clause : Clause) (query : Query) : Clauses :=
  Entries.put clause (clauses.under clause ++ [query]) clauses

/-- Adds queries one after another. -/
def pushAll (clauses : Clauses) (queries : List (Clause × Query)) : Clauses :=
  queries.foldl (fun clauses entry => clauses.push entry.1 entry.2) clauses

/-- Whether there is no query under any clause. -/
def isEmpty (clauses : Clauses) : Bool := clauses.all fun entry => entry.2.isEmpty

/-- A pushed query comes last under its clause; the other clauses stay. -/
theorem under_push (clauses : Clauses) (clause other : Clause) (query : Query) :
    (clauses.push clause query).under other =
      if clause = other then clauses.under clause ++ [query] else clauses.under other := by
  unfold push under
  rw [Entries.find?_put]
  split <;> rfl

end Clauses

namespace Query

instance : Inhabited Query := ⟨.bool []⟩

/-- The query that selects every document. -/
def matchAll : Query := .bool []

/-- Whether the query has no clauses at all. -/
def isMatchAll : Query → Bool
  | .bool [] => true
  | _ => false

mutual

/-- A query in the query language of the store. -/
def toJson : Query → Json
  | .bool clauses => .object [("bool", .object (clausesJson clauses))]
  | .range bounds => .object [("range", bounds.toJson)]

/-- The clauses that hold queries, each with its list. -/
def clausesJson : List (Clause × List Query) → List (String × Json)
  | [] => []
  | (_, []) :: rest => clausesJson rest
  | (clause, query :: queries) :: rest =>
    (clause.name, .array (query.toJson :: queriesJson queries)) :: clausesJson rest

/-- Queries one after another. -/
def queriesJson : List Query → List Json
  | [] => []
  | query :: queries => query.toJson :: queriesJson queries

end

end Query

end DocQuery
