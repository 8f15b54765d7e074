import GraphClient.Message
import GraphClient.Pool

namespace GraphClient

/-- The calls that a node of the pool serves. -/
inductive Call where
  | query (request : QueryRequest)
  | mutate (mutation : Mutation)
  | commitOrAbort (context : WireContext)
  | alter (change : SchemaChange)
  | checkVersion
deriving DecidableEq

/-- What a node answers when it serves the call. -/
@[reducible]
def Call.Reply : Call → Type
  | query _ => QueryReply
  | mutate _ => MutationReply
  | commitOrAbort _ => WireContext
  | alter _ => SchemaReply
  | checkVersion => ServerVersion

/-- The reply of a node that has nothing to say. -/
def Call.emptyReply : (call : Call) → call.Reply
  | query _ => ({} : QueryReply)
  | mutate _ => ({} : MutationReply)
  | commitOrAbort _ => ({} : WireContext)
  | alter _ => ({} : SchemaReply)
  | checkVersion => ({} : ServerVersion)

/-- What the network does with one call: the number that random selection draws for it, the time
that its answer takes, and the answer of the node that gets it. -/
structure Delivery where
  draw : Nat := 0
  delay : Duration := .zero
  answer : (call : Call) → Except CallError call.Reply := fun call => .ok call.emptyReply

namespace Delivery

instance : Inhabited Delivery :=
  ⟨{}⟩

/-- The error of a call that its deadline has cut off. -/
def late (limit : Duration) : CallError :=
  .deadlineExceeded ("call did not complete within " ++ limit.text)

/-- An answer that takes exactly as long as the deadline allows still counts. -/
def answerWithin (deadline : Option Duration) (delivery : Delivery) (call : Call) :
    Except CallError call.Reply :=
  match deadline with
  | none => delivery.answer call
  | some limit => if limit < delivery.delay then .error (late limit) else delivery.answer call

end Delivery

/-- A call that was sent, the endpoint that it went to, and the answer that came back. -/
structure Exchange where
  position : Nat
  endpoint : Endpoint
  call : Call
  answer : Except CallError call.Reply

/-- The calls of one step: the deliveries still to come, and the exchanges so far. -/
structure Traffic where
  inbox : List Delivery := []
  exchanges : List Exchange := []
deriving Inhabited

/-- Sends a call to the endpoint that the pool picks. The call uses up its delivery even if the
deadline then strikes; without an endpoint nothing is sent. -/
def Pool.exchange (pool : Pool) (traffic : Traffic) (call : Call) :
    Except CallFailure call.Reply × Pool × Traffic :=
  let delivery := traffic.inbox.headD {}
  match pool.pick delivery.draw with
  | (none, pool) => (.error .noEndpoint, pool, traffic)
  | (some (position, endpoint), pool) =>
    let answer := delivery.answerWithin pool.deadline call
    (answer.mapError .refused, pool,
      { inbox := traffic.inbox.tail
        exchanges := traffic.exchanges ++ [⟨position, endpoint, call, answer⟩] })

end GraphClient
