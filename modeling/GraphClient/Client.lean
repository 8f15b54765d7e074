import GraphClient.Pool.Shutdown
import GraphClient.Transaction

namespace GraphClient

/-- A client owns a pool and the shared watermark, and carries out plans. Its clones share both, so
a client value stands for all of them. -/
structure Client where
  pool : Pool
  shared : SharedWatermark := .empty
  shutdownTimeout : Duration := .ofMilliseconds 5000
deriving DecidableEq, Inhabited

namespace Client

def ofPool (pool : Pool) : Client :=
  { pool }

def withShutdownTimeout (client : Client) (timeout : Duration) : Client :=
  { client with shutdownTimeout := timeout }

def watermark (client : Client) : Watermark :=
  client.shared.read

/-- A new transaction has seen all that the client has seen, or what a seed of its own says. -/
def begin (client : Client) (mode : Mode) (seed : Option Watermark) : Transaction :=
  .start mode (seed.getD client.watermark)

def alter (change : SchemaChange) : Plan (Except ClientError SchemaReply) :=
  .call (.alter change) fun answer => .done (answer.mapError .ofCallFailure)

def checkVersion : Plan (Except ClientError ServerVersion) :=
  .call .checkVersion fun answer => .done (answer.mapError .ofCallFailure)

def close (client : Client) (timeout : Duration) (behaviours : List Shutdown) : ShutdownReport :=
  client.pool.close timeout behaviours

/-- Closes the pool within the time that the client was configured with. -/
def shutdown (client : Client) (behaviours : List Shutdown) : ShutdownReport :=
  client.close client.shutdownTimeout behaviours

end Client

/-- What a plan runs in: the client, the traffic of its calls, and the watermarks that have been
folded so far. -/
structure Surroundings where
  client : Client
  traffic : Traffic := {}
  folds : List Watermark := []
deriving Inhabited

namespace Surroundings

/-- One call of a plan moves the pool and the traffic on, and leaves the shared watermark. -/
def exchange (surroundings : Surroundings) (call : Call) :
    Except CallFailure call.Reply × Surroundings :=
  let (answer, pool, traffic) := surroundings.client.pool.exchange surroundings.traffic call
  (answer, { surroundings with client := { surroundings.client with pool }, traffic })

/-- The shared watermark takes in the update, and the update is kept as it came. -/
def fold (surroundings : Surroundings) (update : Watermark) : Surroundings :=
  { surroundings with
    client :=
      { surroundings.client with shared := surroundings.client.shared.foldIn update }
    folds := surroundings.folds ++ [update] }

end Surroundings

namespace Plan

/-- Carries out a plan, one call after the other. -/
def run {Result : Type} (plan : Plan Result) (surroundings : Surroundings) :
    Result × Surroundings :=
  match plan with
  | done result => (result, surroundings)
  | call message resume =>
    let (answer, after) := surroundings.exchange message
    (resume answer).run after
  | fold update rest => rest.run (surroundings.fold update)

@[simp] theorem run_done {Result : Type} (result : Result) (surroundings : Surroundings) :
    (done result).run surroundings = (result, surroundings) :=
  rfl

@[simp] theorem run_call {Result : Type} (message : Call)
    (resume : Except CallFailure message.Reply → Plan Result) (surroundings : Surroundings) :
    (call message resume).run surroundings =
      (resume (surroundings.exchange message).1).run (surroundings.exchange message).2 :=
  rfl

@[simp] theorem run_fold {Result : Type} (update : Watermark) (rest : Plan Result)
    (surroundings : Surroundings) :
    (fold update rest).run surroundings = rest.run (surroundings.fold update) :=
  rfl

/-- A plan that goes on with another one is carried out one after the other. -/
theorem run_bind {First Second : Type} (plan : Plan First) (next : First → Plan Second)
    (surroundings : Surroundings) :
    (plan.bind next).run surroundings =
      (next (plan.run surroundings).1).run (plan.run surroundings).2 := by
  induction plan generalizing surroundings with
  | done result => rfl
  | call message resume inductionHypothesis => simp [bind, inductionHypothesis]
  | fold update rest inductionHypothesis => simp [bind, inductionHypothesis]

end Plan

end GraphClient
