import DocQuery.Store.Memory

/-!
# A store that follows a script

A store in memory whose next answers can be laid down in advance: given answers,
failures, and answers that come only after every deadline. Without a script it
answers at once from what it holds.
-/

namespace DocQuery

/-- How the store takes a call. -/
inductive Reply where
  /-- With a given answer. -/
  | answers (response : Response)
  /-- With a failure. -/
  | fails (error : Error)
  /-- From what it holds. -/
  | passes
  /-- From what it holds, but after every deadline. -/
  | stalls

/-- What a caller gets, and when. -/
inductive Delivery where
  /-- An answer at once. -/
  | prompt (answer : Except Error Response)
  /-- An answer after all answers that come at once. -/
  | late (answer : Except Error Response)
  /-- Nothing before the deadline. -/
  | cutOff

/-- A store in memory with the replies to its next calls. -/
structure ScriptedStore where
  memory : Memory
  replies : List Reply

namespace ScriptedStore

/-- What a reply delivers to a caller with or without a deadline. -/
def deliver (memory : Memory) (deadline : Bool) (operation : Operation) : Reply → Delivery
  | .answers response => .prompt (.ok response)
  | .fails error => .prompt (.error error)
  | .passes => .prompt (memory.answer operation)
  | .stalls => if deadline then .cutOff else .late (memory.answer operation)

/-- The reply to the next call. -/
def nextReply (store : ScriptedStore) : Reply := store.replies.head?.getD .passes

/-- The store after a call. -/
def afterCall (store : ScriptedStore) : ScriptedStore :=
  { store with replies := store.replies.tail }

/-- What the next call delivers. -/
def call (store : ScriptedStore) (deadline : Bool) (operation : Operation) : Delivery :=
  deliver store.memory deadline operation store.nextReply

end ScriptedStore

end DocQuery
