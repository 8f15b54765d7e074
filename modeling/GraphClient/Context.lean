import GraphClient.Message
import GraphClient.Text

namespace GraphClient

/-- What a transaction has learnt from the replies that it accepted: its start timestamp, its
watermark and the keys on which it may conflict. A start timestamp of zero is not assigned yet. -/
structure TransactionContext where
  startTimestamp : UInt64 := 0
  watermark : Watermark := Watermark.empty
  keys : SortedSet String := SortedMap.empty
  aborted : Bool := false
deriving DecidableEq, Inhabited

namespace TransactionContext

/-- The context of a transaction that no node has seen yet. -/
def seeded (watermark : Watermark) : TransactionContext :=
  { watermark }

/-- Two start timestamps clash when both are assigned and they differ. -/
def clash (current received : UInt64) : Bool :=
  current != 0 && received != 0 && current != received

/-- A reply must not name another start timestamp than the one already assigned. -/
def checkStart (context : TransactionContext) (received : UInt64) : Except StartMismatch Unit :=
  if clash context.startTimestamp received then .error ⟨context.startTimestamp, received⟩ else .ok ()

/-- Takes over what a reply reports: the first start timestamp, higher versions and further keys. -/
def extend (context : TransactionContext) (reply : WireContext) : TransactionContext :=
  { context with
    startTimestamp :=
      if context.startTimestamp = 0 then reply.startTimestamp else context.startTimestamp
    watermark := context.watermark.merge reply.watermark
    keys := SortedSet.insertMany context.keys reply.keys }

/-- A reply that names another start timestamp changes nothing. -/
def absorb (context : TransactionContext) (reply : WireContext) :
    Except StartMismatch TransactionContext :=
  (context.checkStart reply.startTimestamp).map fun _ => context.extend reply

def markAborted (context : TransactionContext) : TransactionContext :=
  { context with aborted := true }

/-- The context as a commit or an abort carries it: the keys in ascending order, each once. -/
def toWire (context : TransactionContext) : WireContext where
  startTimestamp := context.startTimestamp
  commitTimestamp := 0
  aborted := context.aborted
  keys := SortedSet.toList context.keys
  watermark := context.watermark

def text (context : TransactionContext) : String :=
  Text.record "TransactionContext"
    [("start_ts", toString context.startTimestamp),
      ("watermark", context.watermark.text),
      ("keys", Text.braced ((SortedSet.toList context.keys).map Text.quoted)),
      ("aborted", Text.truth context.aborted)]

end TransactionContext

end GraphClient
