import GraphClient.Client

namespace GraphClient

/-- What the caller does with one transaction. -/
inductive Operation where
  | query (text : String) (bindings : TextMap)
  | mutate (mutation : Mutation)
  | commit
  | discard
  | bestEffort
deriving DecidableEq

/-- What the caller of a step gets back. -/
inductive Outcome where
  | done
  | queried (reply : QueryReply)
  | mutated (reply : MutationReply)
  | altered (reply : SchemaReply)
  | version (version : ServerVersion)
  | closed (report : ShutdownReport)
  | dropped (existed : Bool)
  | failed (error : ClientError)
  | unknownTransaction
deriving DecidableEq

namespace Outcome

def ofExcept {Value : Type} (outcome : Value → Outcome) : Except ClientError Value → Outcome
  | .ok value => outcome value
  | .error error => failed error

end Outcome

/-- Carries out one operation, whichever it is. -/
def Transaction.perform (transaction : Transaction) : Operation → Plan (Outcome × Transaction)
  | .query text bindings => do
    let (result, transaction) ← transaction.query text bindings
    return (.ofExcept .queried result, transaction)
  | .mutate mutation => do
    let (result, transaction) ← transaction.mutate mutation
    return (.ofExcept .mutated result, transaction)
  | .commit => do
    let (result, transaction) ← transaction.commit
    return (.ofExcept (fun _ => .done) result, transaction)
  | .discard => do
    let transaction ← transaction.discard
    return (.done, transaction)
  | .bestEffort =>
    match transaction.withBestEffort with
    | .ok changed => return (.done, changed)
    | .error error => return (.failed error, transaction)

/-- The asynchronous and the blocking client differ in one rule only: a blocking transaction that is
let go of before it is finished discards itself, unless that is where nothing may block. -/
inductive Flavour where
  | asynchronous
  | blocking
deriving DecidableEq, Inhabited

/-- What a caller does with a client and its transactions. A transaction is let go of by a drop, or
by a begin that takes its name; the flag says that this happens where nothing may block. -/
inductive Step where
  /-- A clone shares the pool and the watermark, so cloning changes nothing. -/
  | clone (name : String)
  /-- Starts a transaction from the shared watermark, or from a seed of its own, and lets go of an
  earlier one of the name. -/
  | begin (name : String) (mode : Mode) (seed : Option Watermark) (mayNotBlock : Bool)
  | drop (name : String) (mayNotBlock : Bool)
  | operate (name : String) (operation : Operation)
  | alter (change : SchemaChange)
  | checkVersion
  | close (timeout : Duration) (behaviours : List Shutdown)
  | shutdown (behaviours : List Shutdown)
  /-- Looks at the session without doing anything. -/
  | look
deriving DecidableEq

/-- A client together with its named transactions. -/
structure Session where
  flavour : Flavour := .asynchronous
  client : Client
  transactions : SortedMap String Transaction := .empty
deriving DecidableEq, Inhabited

/-- What one step showed: its outcome, its exchanges, the watermarks that it folded, and how many
deliveries it left. -/
structure Record where
  outcome : Outcome
  exchanges : List Exchange := []
  folds : List Watermark := []
  unused : Nat := 0

/-- The record of a step that has ended in these surroundings. -/
def Surroundings.record (surroundings : Surroundings) (outcome : Outcome) : Record where
  outcome := outcome
  exchanges := surroundings.traffic.exchanges
  folds := surroundings.folds
  unused := surroundings.traffic.inbox.length

namespace Session

def transaction? (session : Session) (name : String) : Option Transaction :=
  session.transactions.get? name

/-- What the plans of a step run in. -/
def surroundings (session : Session) (inbox : List Delivery) : Surroundings :=
  { client := session.client, traffic := { inbox } }

/-- The session after a plan of its client has run. -/
def after (session : Session) (surroundings : Surroundings) : Session :=
  { session with client := surroundings.client }

/-- Carries out a plan of the client itself. -/
def ask {Value : Type} (session : Session) (inbox : List Delivery)
    (plan : Plan (Except ClientError Value)) (outcome : Value → Outcome) : Record × Session :=
  let (result, surroundings) := plan.run (session.surroundings inbox)
  (surroundings.record (.ofExcept outcome result), session.after surroundings)

/-- The end of a transaction that its owner lets go of. -/
def dropPlan (flavour : Flavour) (mayNotBlock : Bool) (transaction : Transaction) :
    Plan Transaction :=
  match flavour with
  | .asynchronous => .done transaction
  | .blocking => if mayNotBlock then .done transaction else transaction.discard

/-- Starts the new transaction before it lets go of another one of the same name. -/
def begin (session : Session) (inbox : List Delivery) (name : String) (mode : Mode)
    (seed : Option Watermark) (mayNotBlock : Bool) : Record × Session :=
  let fresh := session.client.begin mode seed
  let surroundings :=
    match session.transaction? name with
    | none => session.surroundings inbox
    | some old => ((dropPlan session.flavour mayNotBlock old).run (session.surroundings inbox)).2
  (surroundings.record .done,
    { session.after surroundings with transactions := session.transactions.insert name fresh })

/-- Lets go of a transaction, if there is one of the name. -/
def drop (session : Session) (inbox : List Delivery) (name : String) (mayNotBlock : Bool) :
    Record × Session :=
  match session.transaction? name with
  | none => ((session.surroundings inbox).record (.dropped false), session)
  | some old =>
    let (_, surroundings) :=
      (dropPlan session.flavour mayNotBlock old).run (session.surroundings inbox)
    (surroundings.record (.dropped true),
      { session.after surroundings with transactions := session.transactions.erase name })

/-- Carries out an operation of a transaction and keeps what is left of it. -/
def operate (session : Session) (inbox : List Delivery) (name : String) (operation : Operation) :
    Record × Session :=
  match session.transaction? name with
  | none => ((session.surroundings inbox).record .unknownTransaction, session)
  | some transaction =>
    let ((outcome, transaction), surroundings) :=
      (transaction.perform operation).run (session.surroundings inbox)
    (surroundings.record outcome,
      { session.after surroundings with
        transactions := session.transactions.insert name transaction })

/-- Acts on the session by one step, with the deliveries of its own calls. -/
def step (session : Session) (inbox : List Delivery) : Step → Record × Session
  | .begin name mode seed mayNotBlock => session.begin inbox name mode seed mayNotBlock
  | .drop name mayNotBlock => session.drop inbox name mayNotBlock
  | .operate name operation => session.operate inbox name operation
  | .alter change => session.ask inbox (Client.alter change) .altered
  | .checkVersion => session.ask inbox Client.checkVersion .version
  | .close timeout behaviours =>
    ((session.surroundings inbox).record (.closed (session.client.close timeout behaviours)),
      session)
  | .shutdown behaviours =>
    ((session.surroundings inbox).record (.closed (session.client.shutdown behaviours)), session)
  | .clone _ | .look => ((session.surroundings inbox).record .done, session)

/-- Takes the steps in order, each with its own deliveries. -/
def run (session : Session) : List (Step × List Delivery) → List Record × Session
  | [] => ([], session)
  | (step, inbox) :: rest =>
    let (record, after) := session.step inbox step
    let (records, last) := after.run rest
    (record :: records, last)

end Session

end GraphClient
