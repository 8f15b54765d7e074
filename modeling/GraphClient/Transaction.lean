import GraphClient.Context
import GraphClient.Plan

namespace GraphClient

/-- What a transaction may do. Best effort is a kind of reading: it is asked for at a read-only
transaction and refused elsewhere, and nothing takes either quality back, so a transaction that may
write and yet asks for best effort cannot arise and has no mode here. -/
inductive Mode where
  | readWrite
  | readOnly
  | bestEffort
deriving DecidableEq, Inhabited

namespace Mode

def isReadOnly : Mode → Bool
  | readWrite => false
  | readOnly | bestEffort => true

def isBestEffort : Mode → Bool
  | bestEffort => true
  | readWrite | readOnly => false

end Mode

/-- What became of the abort that releases a transaction. -/
inductive Cleanup where
  | skipped
  | completed
  | failed (error : ClientError)
deriving DecidableEq

namespace Cleanup

/-- There was something to release. -/
def wasAttempted : Cleanup → Bool
  | skipped => false
  | completed | failed _ => true

/-- What a node answers to an abort is of no interest beyond its having answered. -/
def ofAnswer : Except CallFailure WireContext → Cleanup
  | .ok _ => completed
  | .error failure => failed (.ofCallFailure failure)

end Cleanup

/-- A transaction is active until it is settled by a commit or released. Only a discard records what
became of its cleanup, it finishes the transaction before it does so, and nothing makes a finished
transaction active again; so a record at an unfinished transaction cannot arise and has no phase
here. -/
inductive Phase where
  | active
  | settled
  | released (cleanup : Cleanup)
deriving DecidableEq, Inhabited

/-- One transaction of a client. It sends its reads and writes with what it has learnt so far, takes
over what the replies report, and gives the server at most one signal at its end: a commit, or an
abort when it is released after a mutation. Every operation is a plan whose result holds the
transaction afterwards. -/
structure Transaction where
  context : TransactionContext
  mode : Mode
  mutated : Bool := false
  phase : Phase := .active
deriving DecidableEq, Inhabited

namespace Transaction

def start (mode : Mode) (seed : Watermark) : Transaction where
  context := .seeded seed
  mode := mode

def isFinished (transaction : Transaction) : Bool :=
  transaction.phase != .active

/-- The record of the cleanup, once there is one. -/
def lastCleanup (transaction : Transaction) : Option Cleanup :=
  match transaction.phase with
  | .released cleanup => some cleanup
  | .active | .settled => none

/-- Lets nodes answer reads without waiting for the latest timestamp; a transaction that may write
stays as it is. -/
def withBestEffort (transaction : Transaction) : Except ClientError Transaction :=
  if transaction.mode.isReadOnly then .ok { transaction with mode := .bestEffort }
  else .error .bestEffortRequiresReadOnly

/-- The read as the transaction sends it. -/
def request (transaction : Transaction) (text : String) (bindings : TextMap) : QueryRequest where
  text := text
  bindings := bindings
  startTimestamp := transaction.context.startTimestamp
  watermark := transaction.context.watermark
  readOnly := transaction.mode.isReadOnly
  bestEffort := transaction.mode.isBestEffort

/-- The write as the transaction sends it: whatever start timestamp it held is replaced. -/
def stamp (transaction : Transaction) (mutation : Mutation) : Mutation :=
  { mutation with startTimestamp := transaction.context.startTimestamp }

/-- Ends the transaction without a commit. A finished one stays as it is; the server hears of it only
if something was written. -/
def discard (transaction : Transaction) : Plan Transaction :=
  if transaction.isFinished then .done transaction
  else if transaction.mutated then
    let context := transaction.context.markAborted
    .call (.commitOrAbort context.toWire) fun answer =>
      .done { transaction with context, phase := .released (.ofAnswer answer) }
  else .done { transaction with phase := .released .skipped }

/-- Takes over what a reply reports and passes the watermark on to the sink. A reply that names
another start timestamp ends the transaction. -/
def accept (transaction : Transaction) (reply : WireContext) :
    Plan (Except ClientError Unit × Transaction) :=
  match transaction.context.absorb reply with
  | .error mismatch => do
    let released ← transaction.discard
    return (.error (.startMismatch mismatch), released)
  | .ok context => .fold context.watermark (.done (.ok (), { transaction with context }))

/-- A read that gets no answer leaves the transaction as it was. -/
def query (transaction : Transaction) (text : String) (bindings : TextMap) :
    Plan (Except ClientError QueryReply × Transaction) :=
  if transaction.isFinished then .done (.error .finished, transaction)
  else
    .call (.query (transaction.request text bindings)) fun
      | .error failure => .done (.error (.ofCallFailure failure), transaction)
      | .ok reply => do
        let (accepted, transaction) ← transaction.accept reply.context
        return (accepted.map fun _ => reply, transaction)

/-- The error of a mutation that was not applied. -/
def mutationError : Except CallFailure MutationReply → Except ClientError MutationReply
  | .error failure => .error (.ofCallFailure failure)
  | .ok reply =>
    match reply.statedError with
    | some message => .error (.ofServerMessage message)
    | none => .ok reply

/-- A write that fails ends the transaction. One that asks to be committed at once settles it. -/
def mutate (transaction : Transaction) (mutation : Mutation) :
    Plan (Except ClientError MutationReply × Transaction) :=
  if transaction.isFinished then .done (.error .finished, transaction)
  else if transaction.mode.isReadOnly then .done (.error .readOnly, transaction)
  else
    .call (.mutate (transaction.stamp mutation)) fun answer =>
      match mutationError answer with
      | .error error => do
        let released ← transaction.discard
        return (.error error, released)
      | .ok reply => do
        let (accepted, transaction) ←
          { transaction with mutated := true }.accept reply.context
        match accepted with
        | .error error => return (.error error, transaction)
        | .ok () =>
          return (.ok reply,
            if mutation.commitNow then { transaction with phase := .settled } else transaction)

/-- The reason of a conflict that the answer to a commit reports. -/
def commitRefusal (startTimestamp : UInt64) : String :=
  s!"commit of transaction {startTimestamp} was aborted by the server"

/-- What the answer to a commit says: the watermark of the commit, or why it was refused. -/
def commitOutcome (transaction : Transaction) :
    Except CallFailure WireContext → Except ClientError Watermark
  | .error failure => .error (.ofCallFailure failure)
  | .ok reply =>
    match transaction.context.checkStart reply.startTimestamp with
    | .error mismatch => .error (.startMismatch mismatch)
    | .ok () =>
      if reply.aborted then
        .error (.conflict (commitRefusal transaction.context.startTimestamp))
      else .ok reply.watermark

/-- Settles the transaction before anything is sent, so that a commit is never tried twice. Without a
write there is nothing to send. -/
def commit (transaction : Transaction) : Plan (Except ClientError Unit × Transaction) :=
  if transaction.isFinished then .done (.error .finished, transaction)
  else
    let settled := { transaction with phase := .settled }
    if transaction.mutated then
      .call (.commitOrAbort transaction.context.toWire) fun answer =>
        match transaction.commitOutcome answer with
        | .error error => .done (.error error, settled)
        | .ok watermark => .fold watermark (.done (.ok (), settled))
    else .done (.ok (), settled)

def text (transaction : Transaction) : String :=
  Text.record "Transaction"
    [("context", transaction.context.text),
      ("read_only", Text.truth transaction.mode.isReadOnly),
      ("best_effort", Text.truth transaction.mode.isBestEffort),
      ("mutated", Text.truth transaction.mutated),
      ("finished", Text.truth transaction.isFinished)]

end Transaction

end GraphClient
