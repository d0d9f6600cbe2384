import DocQuery.Error

/-!
# Context that is added to errors

Context stands in front of a chain of causes and takes nothing away behind it; of the context
itself only its outermost cause is taken (`Error.causes_withContexts`). All else is read off
the chain: an error reads from the context that was added last to the root, and for a kind it
is asked about that context alone answers. Context that is also held elsewhere keeps its text
and loses its kind.
-/

namespace DocQuery

/-- Context for an error, and whether the context is also held elsewhere. -/
structure Context where
  error : Error
  shared : Bool
  deriving DecidableEq, Repr

namespace Context

/-- The text of the outermost cause of a context, without the causes behind it. -/
def text (context : Context) : String := context.error.outermost.message

/-- The cause that a context contributes. -/
def cause (context : Context) : Cause := context.error.contributed context.shared

end Context

/-- Texts are joined up to a place before they are joined with those from there on. -/
theorem joinColon_append (front : List String) {behind : List String} (inhabited : behind ≠ []) :
    joinColon (front ++ behind) = joinColon (front ++ [joinColon behind]) := by
  unfold joinColon
  by_cases empty : front = []
  · rw [empty, List.nil_append, List.nil_append, String.intercalate_singleton]
  · rw [String.intercalate_append_of_ne_nil empty inhabited,
      String.intercalate_append_of_ne_nil empty (List.cons_ne_nil _ _),
      String.intercalate_singleton]

namespace Error

/-- Adds contexts one after another, the first one of the list first. -/
def withContexts (root : Error) (contexts : List Context) : Error :=
  contexts.foldl (fun error context => error.withContext context.error context.shared) root

/-! ## One context -/

/-- What a context contributes reads as the outermost cause of the context, held elsewhere or
not. -/
theorem message_contributed (context : Error) (shared : Bool) :
    (context.contributed shared).message = context.outermost.message := by
  cases shared <;> rfl

theorem causes_withContext (error context : Error) (shared : Bool) :
    (error.withContext context shared).causes = context.contributed shared :: error.causes :=
  rfl

/-- An error in a context reads as the outermost cause of the context, then the error. -/
theorem message_withContext (error context : Error) (shared : Bool) :
    (error.withContext context shared).message =
      context.outermost.message ++ ": " ++ error.message := by
  rw [message, causes_withContext, List.map_cons, message_contributed, joinColon,
    String.intercalate_cons_of_ne_nil (by simp [causes])]
  rfl

/-- An error in a context has the kind of the context, unless the context is held elsewhere. -/
theorem hasKind_withContext (error context : Error) (shared : Bool) (kind : ErrorKind) :
    (error.withContext context shared).hasKind kind = (!shared && context.hasKind kind) := by
  cases shared <;> rfl

/-! ## Contexts one after another -/

theorem withContexts_concat (root : Error) (contexts : List Context) (latest : Context) :
    root.withContexts (contexts ++ [latest]) =
      (root.withContexts contexts).withContext latest.error latest.shared := by
  rw [withContexts, List.foldl_append]
  rfl

/-- The chain starts with what the contexts contribute, the latest first, and goes on with all
causes of the root. -/
theorem causes_withContexts (root : Error) (contexts : List Context) :
    (root.withContexts contexts).causes =
      (contexts.map Context.cause).reverse ++ root.causes := by
  induction contexts generalizing root with
  | nil => rfl
  | cons context later ih =>
      calc (root.withContexts (context :: later)).causes
          = ((root.withContext context.error context.shared).withContexts later).causes := rfl
        _ = (later.map Context.cause).reverse ++ (context.cause :: root.causes) := ih _
        _ = ((context :: later).map Context.cause).reverse ++ root.causes := by simp

/-- The text starts with the texts of the contexts, the latest first, and ends with that of the
root. -/
theorem message_withContexts (root : Error) (contexts : List Context) :
    (root.withContexts contexts).message =
      joinColon ((contexts.map Context.text).reverse ++ [root.message]) := by
  have texts : (contexts.map Context.cause).map Cause.message = contexts.map Context.text := by
    rw [List.map_map]
    exact List.map_congr_left fun context _ => message_contributed context.error context.shared
  rw [message, causes_withContexts, List.map_append, List.map_reverse, texts,
    joinColon_append _ (by simp [causes])]
  rfl

/-- An error with context reads from the context that was added last to the root: each context
as its own outermost cause and the root as before, with a colon between neighbours. Contexts
that differ only in what else holds them read alike. Whether the error is of a kind, the
latest context alone decides: it is if that context is, and nothing else holds the context. -/
theorem contexts_read_from_latest (root : Error) (contexts : List Context) :
    (root.withContexts contexts).message =
        joinColon ((contexts.map Context.text).reverse ++ [root.message]) ∧
      (∀ others : List Context, others.map Context.error = contexts.map Context.error →
        (root.withContexts others).message = (root.withContexts contexts).message) ∧
      ∀ latest kind,
        (root.withContexts (contexts ++ [latest])).hasKind kind =
          (!latest.shared && latest.error.hasKind kind) := by
  refine ⟨message_withContexts root contexts, ?held, ?kinds⟩
  case held =>
    intro others sameErrors
    have textsOf (contexts : List Context) : contexts.map Context.text =
        (contexts.map Context.error).map fun error => error.outermost.message := by
      rw [List.map_map]
      rfl
    have sameTexts : others.map Context.text = contexts.map Context.text := by
      rw [textsOf, textsOf, sameErrors]
    rw [message_withContexts, message_withContexts, sameTexts]
  case kinds =>
    intro latest kind
    rw [withContexts_concat, hasKind_withContext]

/-- A failed call in two contexts, the first of which is held elsewhere and has a cause of its
own. The result is of the second one's kind, and of none if that is held elsewhere as well. -/
theorem failed_call_reads_behind_contexts :
    let root := of (.transport ["cannot send", "connection refused"])
    let missing : Context := ⟨(of .noValidMappings).withContext
      (of (.invalidArgument "size" "missing")) false, true⟩
    let late : Context := ⟨of (.deadlineExceeded "search"), false⟩
    let text :=
      "deadline exceeded: search: invalid argument `size`: missing: cannot send: connection refused"
    (root.withContexts [missing, late]).message = text ∧
      (root.withContexts [missing, { late with shared := true }]).message = text ∧
      (root.withContexts [missing, late]).hasKind .deadlineExceeded = true ∧
      ∀ kind, (root.withContexts [missing, { late with shared := true }]).hasKind kind = false := by
  intro root missing late text
  obtain ⟨reads, held, -⟩ := contexts_read_from_latest root [missing, late]
  have joined : (root.withContexts [missing, late]).message = text := reads.trans (by decide)
  refine ⟨joined, (held _ rfl).trans joined, ?_, fun kind => ?_⟩
  · exact ((contexts_read_from_latest root [missing]).2.2 late _).trans (by decide)
  · exact (contexts_read_from_latest root [missing]).2.2 { late with shared := true } kind

end Error

end DocQuery
