import DocQuery.Text.Digits

/-!
# Errors

An error is a chain of causes, from the context added last to the root. Its
text is the texts of the causes in that order. The outermost cause decides what
sort of error it is.

Context goes in front of the text, and whether the context was shared does not
show in it.
-/

namespace DocQuery

/-- A single cause of failure. -/
inductive Cause where
  /-- A free message. -/
  | adhoc (text : String)
  /-- The store did not answer in time. -/
  | deadlineExceeded (operation : String)
  /-- The store could not be reached; the texts lead from the failed call to
  its root. -/
  | transport (chain : List String)
  /-- An argument is missing or has the wrong shape. -/
  | invalidArgument (name text : String)
  /-- A store address is malformed. -/
  | invalidConnectionUrl (text : String)
  /-- The metadata of a collection lists no fields. -/
  | invalidMapping (collection text : String)
  /-- The store answered with success but in an unexpected shape. -/
  | invalidResponse (text : String)
  /-- No collection has usable metadata. -/
  | noValidMappings
  /-- The store refused a request. -/
  | queryFailed (status : Nat) (type reason : Option String)
  /-- A store type has no scalar counterpart. -/
  | unsupportedType (kind : String)
  deriving DecidableEq, Repr

/-- Texts with a colon between neighbours. -/
def joinColon (texts : List String) : String := ": ".intercalate texts

/-- The text of a cause. -/
def Cause.message : Cause → String
  | .adhoc text => text
  | .deadlineExceeded operation => "deadline exceeded: " ++ operation
  | .transport chain => joinColon chain
  | .invalidArgument name text => "invalid argument `" ++ name ++ "`: " ++ text
  | .invalidConnectionUrl text => "invalid connection URL: " ++ text
  | .invalidMapping collection text => "invalid mapping for `" ++ collection ++ "`: " ++ text
  | .invalidResponse text => "invalid response: " ++ text
  | .noValidMappings => "no valid mappings provided, no schemas were built"
  | .queryFailed status type reason =>
    joinColon (["query failed", Text.natText status] ++ type.toList ++ reason.toList)
  | .unsupportedType kind => "no scalar type " ++ kind

/-- What an error can be asked about. There is no kind for free messages. -/
inductive ErrorKind where
  | deadlineExceeded
  | transport
  | invalidArgument
  | invalidConnectionUrl
  | invalidMapping
  | invalidResponse
  | noValidMappings
  | queryFailed
  | unsupportedType
  deriving DecidableEq, Repr

/-- The kind of a cause. -/
def Cause.kind? : Cause → Option ErrorKind
  | .adhoc _ => none
  | .deadlineExceeded _ => some .deadlineExceeded
  | .transport _ => some .transport
  | .invalidArgument .. => some .invalidArgument
  | .invalidConnectionUrl _ => some .invalidConnectionUrl
  | .invalidMapping .. => some .invalidMapping
  | .invalidResponse _ => some .invalidResponse
  | .noValidMappings => some .noValidMappings
  | .queryFailed .. => some .queryFailed
  | .unsupportedType _ => some .unsupportedType

/-- A chain of causes. -/
structure Error where
  /-- The cause that was added last. -/
  outermost : Cause
  /-- The causes behind it, down to the root. -/
  inner : List Cause
  deriving DecidableEq, Repr

namespace Error

/-- An error with a single cause. -/
def of (cause : Cause) : Error := ⟨cause, []⟩

/-- All causes, outermost first. -/
def causes (error : Error) : List Cause := error.outermost :: error.inner

/-- The text of an error: the texts of its causes, outermost first. -/
def message (error : Error) : String := joinColon (error.causes.map Cause.message)

/-- Whether an error is of a kind. The causes behind the outermost one do not count. -/
def hasKind (error : Error) (kind : ErrorKind) : Bool :=
  decide (error.outermost.kind? = some kind)

/-- The cause that a context error contributes. Of a context that is also held
elsewhere only the text can be taken. -/
def contributed (context : Error) (shared : Bool) : Cause :=
  if shared then .adhoc context.outermost.message else context.outermost

/-- Adds context in front. Causes behind the context's own are dropped. -/
def withContext (error context : Error) (shared : Bool) : Error :=
  ⟨context.contributed shared, error.causes⟩

/-- Adds a message in front. -/
def context (error : Error) (text : String) : Error := error.withContext (of (.adhoc text)) false

/-- The text of the failed call, if the outermost cause is one. -/
def source? (error : Error) : Option String :=
  match error.outermost with
  | .transport _ => some error.outermost.message
  | _ => none

end Error

end DocQuery
