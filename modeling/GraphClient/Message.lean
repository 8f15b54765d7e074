import GraphClient.Watermark
import GraphClient.Failure

namespace GraphClient

/-- The bodies of messages are opaque bytes. -/
abbrev Bytes :=
  List UInt8

/-- Texts under names; two maps are equal when they hold the same texts under the same names. -/
abbrev TextMap :=
  SortedMap String String

/-- The state of a transaction as calls and replies carry it; a start timestamp of zero is none. -/
structure WireContext where
  startTimestamp : UInt64 := 0
  commitTimestamp : UInt64 := 0
  aborted : Bool := false
  keys : List String := []
  watermark : Watermark := Watermark.empty
deriving DecidableEq, Inhabited

/-- A read, with what its transaction has learnt so far and the mode of the transaction. -/
structure QueryRequest where
  text : String := ""
  bindings : TextMap := SortedMap.empty
  startTimestamp : UInt64 := 0
  watermark : Watermark := Watermark.empty
  readOnly : Bool := false
  bestEffort : Bool := false
deriving DecidableEq, Inhabited

/-- The answer to a read, with the context that the node holds of the transaction. -/
structure QueryReply where
  body : Bytes := []
  context : WireContext := {}
deriving DecidableEq, Inhabited

/-- A write, as JSON or as triples to set or to delete. It carries the start timestamp of its
transaction, and may ask to be committed at once. -/
structure Mutation where
  setJson : Bytes := []
  deleteJson : Bytes := []
  setTriples : Bytes := []
  deleteTriples : Bytes := []
  startTimestamp : UInt64 := 0
  commitNow : Bool := false
  ignoreIndexConflict : Bool := false
deriving DecidableEq, Inhabited

namespace Mutation

def withSetJson (mutation : Mutation) (body : Bytes) : Mutation :=
  { mutation with setJson := body }

def withDeleteJson (mutation : Mutation) (body : Bytes) : Mutation :=
  { mutation with deleteJson := body }

def withSetTriples (mutation : Mutation) (body : Bytes) : Mutation :=
  { mutation with setTriples := body }

def withDeleteTriples (mutation : Mutation) (body : Bytes) : Mutation :=
  { mutation with deleteTriples := body }

def withCommitNow (mutation : Mutation) (commitNow : Bool) : Mutation :=
  { mutation with commitNow }

def withIgnoreIndexConflict (mutation : Mutation) (ignore : Bool) : Mutation :=
  { mutation with ignoreIndexConflict := ignore }

end Mutation

/-- The answer to a mutation; a node that knows no statuses states its error inside the answer. -/
structure MutationReply where
  identifiers : TextMap := SortedMap.empty
  context : WireContext := {}
  error : Option String := none
deriving DecidableEq, Inhabited

/-- The error that a reply states; an empty text states none. -/
def MutationReply.statedError (reply : MutationReply) : Option String :=
  reply.error.filter (· ≠ "")

/-- A change of the schema: new declarations, the removal of one attribute, or the removal of all.
-/
structure SchemaChange where
  schema : String := ""
  dropAttribute : String := ""
  dropAll : Bool := false
deriving DecidableEq, Inhabited

namespace SchemaChange

def ofSchema (schema : String) : SchemaChange :=
  { schema }

/-- Removes one attribute with its data. -/
def dropping (predicate : String) : SchemaChange :=
  { dropAttribute := predicate }

def droppingAll : SchemaChange :=
  { dropAll := true }

end SchemaChange

structure SchemaReply where
  body : Bytes := []
deriving DecidableEq, Inhabited

structure ServerVersion where
  tag : String := ""
deriving DecidableEq, Inhabited

end GraphClient
