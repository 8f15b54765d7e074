import GraphClient.Duration
import GraphClient.Pool.Selection
import GraphClient.Text

namespace GraphClient

/-- A connection to a node; a node without a shutdown of its own always closes at once. -/
structure Endpoint where
  label : String := "endpoint"
  hasShutdown : Bool := true
deriving DecidableEq, Inhabited

def Endpoint.text (endpoint : Endpoint) : String :=
  Text.record "Endpoint" [("label", Text.quoted endpoint.label)]

/-- The endpoint that was chosen for one call, and the deadline of that call. -/
structure Handle where
  position : Nat
  endpoint : Endpoint
  deadline : Option Duration
deriving DecidableEq, Inhabited

/-- A pool lists the endpoints of one cluster, chooses among them by its policy, and puts one
deadline on every call. -/
structure Pool where
  endpoints : List Endpoint := []
  policy : Policy := .random
  deadline : Option Duration := none
deriving DecidableEq, Inhabited

namespace Pool

/-- No endpoints, random selection and no deadline. -/
def empty : Pool :=
  {}

def ofEndpoints (endpoints : List Endpoint) : Pool :=
  { endpoints }

def withPolicy (pool : Pool) (policy : Policy) : Pool :=
  { pool with policy }

/-- A deadline of zero is none. -/
def withDeadline (pool : Pool) (deadline : Duration) : Pool :=
  { pool with deadline := if deadline.isZero then none else some deadline }

def add (pool : Pool) (endpoint : Endpoint) : Pool :=
  { pool with endpoints := pool.endpoints ++ [endpoint] }

def extend (pool : Pool) (endpoints : List Endpoint) : Pool :=
  { pool with endpoints := pool.endpoints ++ endpoints }

def size (pool : Pool) : Nat :=
  pool.endpoints.length

def labels (pool : Pool) : List String :=
  pool.endpoints.map Endpoint.label

/-- The position and the endpoint of the next call, and the pool with its policy moved on. -/
def pick (pool : Pool) (draw : Nat) : Option (Nat × Endpoint) × Pool :=
  let (position, policy) := pool.policy.select pool.size draw
  (position.bind fun position => pool.endpoints[position]?.map (position, ·), { pool with policy })

@[simp] theorem pick_endpoints (pool : Pool) (draw : Nat) :
    (pool.pick draw).2.endpoints = pool.endpoints :=
  rfl

@[simp] theorem pick_deadline (pool : Pool) (draw : Nat) :
    (pool.pick draw).2.deadline = pool.deadline :=
  rfl

/-- The handle of the next call, and the pool with its policy moved on. -/
def handle (pool : Pool) (draw : Nat) : Except ClientError Handle × Pool :=
  match pool.pick draw with
  | (none, after) => (.error .noEndpoints, after)
  | (some (position, endpoint), after) => (.ok ⟨position, endpoint, pool.deadline⟩, after)

@[simp] theorem handle_after (pool : Pool) (draw : Nat) :
    (pool.handle draw).2 = (pool.pick draw).2 := by
  rw [handle]
  split <;> simp [*]

def text (pool : Pool) : String :=
  Text.record "StubPool"
    [("endpoints", Text.bracketed (pool.endpoints.map Endpoint.text)),
      ("policy", pool.policy.text),
      ("deadline", Text.option (pool.deadline.map Duration.text))]

end Pool

end GraphClient
