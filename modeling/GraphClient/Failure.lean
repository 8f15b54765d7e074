import GraphClient.Text

namespace GraphClient

/-- The status of a call that a node did not serve. -/
inductive Status where
  | cancelled
  | unknown
  | invalidArgument
  | deadlineExceeded
  | notFound
  | alreadyExists
  | permissionDenied
  | resourceExhausted
  | failedPrecondition
  | aborted
  | unimplemented
  | internal
  | unavailable
  | unauthenticated
deriving DecidableEq, Inhabited

namespace Status

/-- The statuses in the order of their declaration. -/
def all : List Status :=
  [cancelled, unknown, invalidArgument, deadlineExceeded, notFound, alreadyExists,
    permissionDenied, resourceExhausted, failedPrecondition, aborted, unimplemented, internal,
    unavailable, unauthenticated]

/-- The name under which messages carry the status. -/
def name : Status → String
  | cancelled => "Cancelled"
  | unknown => "Unknown"
  | invalidArgument => "InvalidArgument"
  | deadlineExceeded => "DeadlineExceeded"
  | notFound => "NotFound"
  | alreadyExists => "AlreadyExists"
  | permissionDenied => "PermissionDenied"
  | resourceExhausted => "ResourceExhausted"
  | failedPrecondition => "FailedPrecondition"
  | aborted => "Aborted"
  | unimplemented => "Unimplemented"
  | internal => "Internal"
  | unavailable => "Unavailable"
  | unauthenticated => "Unauthenticated"

/-- The status as error texts show it. -/
def text : Status → String
  | cancelled => "CANCELLED"
  | unknown => "UNKNOWN"
  | invalidArgument => "INVALID_ARGUMENT"
  | deadlineExceeded => "DEADLINE_EXCEEDED"
  | notFound => "NOT_FOUND"
  | alreadyExists => "ALREADY_EXISTS"
  | permissionDenied => "PERMISSION_DENIED"
  | resourceExhausted => "RESOURCE_EXHAUSTED"
  | failedPrecondition => "FAILED_PRECONDITION"
  | aborted => "ABORTED"
  | unimplemented => "UNIMPLEMENTED"
  | internal => "INTERNAL"
  | unavailable => "UNAVAILABLE"
  | unauthenticated => "UNAUTHENTICATED"

def ofName? (name : String) : Option Status :=
  all.find? fun status => status.name == name

theorem ofName?_name (status : Status) : ofName? status.name = some status := by
  cases status <;> decide

/-- The statuses by which a node refuses a transaction that clashes with another one. -/
def isConflict : Status → Bool
  | aborted | failedPrecondition => true
  | _ => false

end Status

/-- The error answer of a call. -/
structure CallError where
  status : Status
  message : String
deriving DecidableEq, Inhabited

namespace CallError

def deadlineExceeded (message : String) : CallError :=
  ⟨.deadlineExceeded, message⟩

def unavailable (message : String) : CallError :=
  ⟨.unavailable, message⟩

def isConflict (error : CallError) : Bool :=
  error.status.isConflict

def text (error : CallError) : String :=
  error.status.text ++ ": " ++ error.message

end CallError

/-- A call has no answer: no endpoint was selected for it, or its node answered with an error. -/
inductive CallFailure where
  | noEndpoint
  | refused (error : CallError)
deriving DecidableEq

/-- The start timestamp that a transaction holds, and another one that a reply names. -/
structure StartMismatch where
  current : UInt64
  received : UInt64
deriving DecidableEq, Inhabited

/-- What is wrong with a configuration or with its file. The reader of documents gives its own reason;
the words in which the system says why it cannot read or write a file are left out. -/
inductive ConfigurationFault where
  | unknownSelection (name : String)
  | unparsable (reason : String)
  | unreadable (path : String)
  | unwritable (path : String)
  | stated (text : String)
deriving DecidableEq

def ConfigurationFault.text : ConfigurationFault → String
  | unknownSelection name =>
    "Invalid selection policy '" ++ name ++ "'. Expected \"random\" or \"round_robin\"."
  | unparsable reason => "Failed to parse config: " ++ reason
  | unreadable path => "Failed to read config file '" ++ path ++ "'"
  | unwritable path => "Failed to write default config file '" ++ path ++ "'"
  | stated text => text

/-- The errors that the callers of a client see. -/
inductive ClientError where
  | finished
  | readOnly
  | conflict (reason : String)
  | startMismatch (mismatch : StartMismatch)
  | server (message : String)
  | transport (error : CallError)
  | noEndpoints
  | bestEffortRequiresReadOnly
  | configuration (fault : ConfigurationFault)
  | internal (message : String)
deriving DecidableEq

namespace ClientError

/-- The words by which a node that knows no statuses says that a transaction has lost a conflict. -/
def abortedMarker : String :=
  "Transaction has been aborted"

/-- Sorts the error answer of a call: a conflict asks for a new transaction, all else is passed on. -/
def ofCallError (error : CallError) : ClientError :=
  if error.isConflict then conflict error.text else transport error

/-- Sorts a call that has no answer: one without an endpoint is told from one that was refused. -/
def ofCallFailure : CallFailure → ClientError
  | .noEndpoint => noEndpoints
  | .refused error => ofCallError error

/-- Sorts an error text that came inside a served reply. -/
def ofServerMessage (message : String) : ClientError :=
  if Text.occurs abortedMarker.toList message.toList then conflict message else server message

/-- A new transaction may succeed where this one did not. -/
def isRetryable : ClientError → Bool
  | conflict _ => true
  | _ => false

/-- The caller asked for what the transaction's mode or phase does not allow. -/
def isLifecycle : ClientError → Bool
  | finished | readOnly | bestEffortRequiresReadOnly => true
  | _ => false

/-- The error that caused this one, as text. -/
def source : ClientError → Option String
  | transport error => some error.text
  | _ => none

/-- The text of an error as its caller reads it. -/
def text : ClientError → String
  | finished => "Transaction has already been committed or discarded"
  | readOnly => "Read-only transaction cannot run mutations or commits"
  | conflict reason =>
    "Transaction aborted due to conflict, retry with a new transaction: " ++ reason
  | startMismatch mismatch =>
    s!"Start timestamp mismatch: transaction has {mismatch.current}, " ++
      s!"server reported {mismatch.received}"
  | server message => "Server error: " ++ message
  | transport error => "RPC error: " ++ error.text
  | noEndpoints => "No endpoints registered in the pool"
  | bestEffortRequiresReadOnly => "Best-effort mode is only available on read-only transactions"
  | configuration fault => "Configuration error: " ++ fault.text
  | internal message => "Internal error: " ++ message

end ClientError

end GraphClient
