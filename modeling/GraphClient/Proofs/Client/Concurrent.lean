/-
A session whose transactions act at the same time. An operation may be carried out in parts: it goes
on until it waits for the answer to a call, others act, and it goes on when the answer arrives.
Steps may still be taken at once, so every run of a session is a run of this kind too.
-/

import GraphClient.Proofs.Plan.Course
import GraphClient.Client.Session

namespace GraphClient

namespace Session

theorem transaction?_insert (session : Session) (client : Client) (name other : String)
    (transaction : Transaction) :
    transaction? { session with
      client
      transactions := session.transactions.insert name transaction } other =
        if other = name then some transaction else session.transaction? other :=
  SortedMap.get?_insert _ _ _ _

theorem transaction?_erase (session : Session) (client : Client) (name other : String) :
    transaction? { session with client, transactions := session.transactions.erase name } other =
      if other = name then none else session.transaction? other :=
  SortedMap.get?_erase _ _ _

end Session

/-- A call that was sent and waits for its answer, and the plan that goes on with the answer. -/
structure Flight where
  position : Nat
  endpoint : Endpoint
  message : Call
  resume : Except CallFailure message.Reply → Plan (Outcome × Transaction)

/-- An operation pauses at its end or at a call that waits for its answer. -/
inductive Pause where
  | ended (outcome : Outcome) (transaction : Transaction)
  | waiting (flight : Flight)

/-- What is left to do after the pause. -/
def Pause.rest : Pause → Plan (Outcome × Transaction)
  | ended outcome transaction => .done (outcome, transaction)
  | waiting flight => .call flight.message flight.resume

/-- Goes on with a plan up to the next pause. A call for which no endpoint is selected is none. -/
def Plan.advance (draw : Nat) (client : Client) : Plan (Outcome × Transaction) → Pause × Client
  | done result => (.ended result.1 result.2, client)
  | fold update rest => rest.advance draw { client with shared := client.shared.foldIn update }
  | call message resume =>
    match client.pool.pick draw with
    | (none, pool) => (resume (.error .noEndpoint)).advance draw { client with pool }
    | (some (position, endpoint), pool) =>
      (.waiting ⟨position, endpoint, message, resume⟩, { client with pool })

/-- Up to the next pause nothing is sent, and what is folded goes into the shared watermark. -/
theorem Plan.advance_leads (plan : Plan (Outcome × Transaction)) (draw : Nat) (client : Client) :
    ∃ events, plan.Leads events (plan.advance draw client).1.rest ∧ Event.exchanges events = [] ∧
      (plan.advance draw client).2.watermark =
        client.watermark ⊔ Watermark.join (Event.folds events) := by
  induction plan generalizing client with
  | done result => exact ⟨[], .stay _, rfl, (sup_bot_eq _).symm⟩
  | fold update rest inductionHypothesis =>
      obtain ⟨events, leads, unsent, raised⟩ :=
        inductionHypothesis { client with shared := client.shared.foldIn update }
      have folded : (client.shared.foldIn update).read = client.watermark ⊔ update :=
        SharedWatermark.read_foldIn _ _
      change _ = (client.shared.foldIn update).read ⊔ _ at raised
      rw [folded, sup_assoc, ← Watermark.join_cons] at raised
      exact ⟨.folded update :: events, .fold leads, unsent, raised⟩
  | call message resume inductionHypothesis =>
      rw [advance]
      split
      next pool _ =>
        obtain ⟨events, leads, unsent, raised⟩ :=
          inductionHypothesis (.error .noEndpoint) { client with pool }
        exact ⟨.unsent message :: events, .call .unsent leads, unsent, raised⟩
      next => exact ⟨[], .stay _, rfl, (sup_bot_eq _).symm⟩

/-- What a log tells of the transactions, each under its name. -/
inductive Entry where
  | begun (name : String)
  | sent (name : String) (call : Call)
  | answered (name : String) (exchange : Exchange)

namespace Entry

def name : Entry → String
  | begun name | sent name _ | answered name _ => name

/-- The entries of calls that were answered one after the other. -/
def ofExchanges (name : String) (exchanges : List Exchange) : List Entry :=
  exchanges.flatMap fun exchange => [sent name exchange.call, answered name exchange]

/-- Exchanges are logged under the name of their transaction. -/
theorem name_of_mem_ofExchanges {name : String} {exchanges : List Exchange} {entry : Entry}
    (member : entry ∈ ofExchanges name exchanges) : entry.name = name := by
  obtain ⟨exchange, -, among⟩ := List.mem_flatMap.1 member
  rcases List.mem_cons.1 among with rfl | later
  · rfl
  · rw [List.mem_singleton.1 later]
    rfl

end Entry

namespace Step

/-- The transaction that the step concerns. -/
def name? : Step → Option String
  | begin name _ _ _ | drop name _ | operate name _ => some name
  | clone _ | alter _ | checkVersion | close _ _ | shutdown _ | look => none

/-- The watermark that a transaction begins with instead of the shared one. -/
def seed? : Step → Option Watermark
  | begin _ _ seed _ => seed
  | clone _ | drop _ _ | operate _ _ | alter _ | checkVersion | close _ _ | shutdown _ | look => none

/-- What a step that is taken at once adds to the log. -/
def entries (step : Step) (exchanges : List Exchange) : List Entry :=
  match step with
  | begin name _ _ _ => Entry.ofExchanges name exchanges ++ [.begun name]
  | drop name _ | operate name _ => Entry.ofExchanges name exchanges
  | clone _ | alter _ | checkVersion | close _ _ | shutdown _ | look => []

end Step

/-- A move is a step taken at once, or a part of an operation: its start or the arrival of an answer.
Transactions begin with the shared watermark. -/
inductive Move where
  | step (step : Step) (unseeded : step.seed? = none) (inbox : List Delivery)
  | start (name : String) (operation : Operation) (draw : Nat)
  | answer (name : String) (delivery : Delivery)

/-- A session whose transactions act at the same time: the calls that wait for their answers, and a
log of what happens to the transactions. -/
structure Concurrent where
  session : Session
  flights : SortedMap String Flight := .empty
  log : List Entry := []

namespace Concurrent

/-- The call of this transaction that waits for its answer. -/
def flight? (state : Concurrent) (name : String) : Option Flight :=
  state.flights.get? name

/-- A transaction whose operation waits for an answer cannot be used for anything else. -/
def isBusy (state : Concurrent) (name : String) : Bool :=
  (state.flight? name).isSome

/-- The state after an operation has come to a pause. -/
def pause (state : Concurrent) (name : String) : Pause × Client → Concurrent
  | (.ended _ transaction, client) =>
    { state with
      session :=
        { state.session with
          client
          transactions := state.session.transactions.insert name transaction }
      flights := state.flights.erase name }
  | (.waiting flight, client) =>
    { session := { state.session with client }
      flights := state.flights.insert name flight
      log := state.log ++ [.sent name flight.message] }

@[simp] theorem client_pause (state : Concurrent) (name : String) (paused : Pause × Client) :
    (state.pause name paused).session.client = paused.2 := by
  obtain ⟨pause, client⟩ := paused
  cases pause <;> rfl

@[simp] theorem transaction?_pause_ended (state : Concurrent) (name other : String)
    (outcome : Outcome) (transaction : Transaction) (client : Client) :
    (state.pause name (.ended outcome transaction, client)).session.transaction? other =
      if other = name then some transaction else state.session.transaction? other :=
  state.session.transaction?_insert client name other transaction

@[simp] theorem flight?_pause_ended (state : Concurrent) (name other : String) (outcome : Outcome)
    (transaction : Transaction) (client : Client) :
    (state.pause name (.ended outcome transaction, client)).flight? other =
      if other = name then none else state.flight? other :=
  SortedMap.get?_erase _ _ _

@[simp] theorem flight?_pause_waiting (state : Concurrent) (name other : String) (flight : Flight)
    (client : Client) :
    (state.pause name (.waiting flight, client)).flight? other =
      if other = name then some flight else state.flight? other :=
  SortedMap.get?_insert _ _ _ _

/-- Starts an operation, which goes on up to its first pause; a busy transaction is left alone. -/
def start (state : Concurrent) (name : String) (operation : Operation) (draw : Nat) : Concurrent :=
  match state.flight? name, state.session.transaction? name with
  | none, some transaction =>
    state.pause name ((transaction.perform operation).advance draw state.session.client)
  | _, _ => state

/-- The call that was sent, with the answer that it gets. -/
def arrival (state : Concurrent) (flight : Flight) (delivery : Delivery) : Exchange where
  position := flight.position
  endpoint := flight.endpoint
  call := flight.message
  answer := delivery.answerWithin state.session.client.pool.deadline flight.message

/-- Brings the answer that an operation waits for, and the operation goes on up to its next pause.
-/
def answer (state : Concurrent) (name : String) (delivery : Delivery) : Concurrent :=
  match state.flight? name with
  | none => state
  | some flight =>
    let exchange := state.arrival flight delivery
    let answered : Concurrent := { state with log := state.log ++ [.answered name exchange] }
    answered.pause name
      ((flight.resume (exchange.answer.mapError .refused)).advance delivery.draw
        state.session.client)

/-- Takes a step at once, unless its transaction waits for an answer. -/
def step (state : Concurrent) (step : Step) (inbox : List Delivery) : Concurrent :=
  if step.name?.any state.isBusy then state
  else
    let (record, session) := state.session.step inbox step
    { state with session, log := state.log ++ step.entries record.exchanges }

/-- Makes one move. -/
def move (state : Concurrent) : Move → Concurrent
  | .step step _ inbox => state.step step inbox
  | .start name operation draw => state.start name operation draw
  | .answer name delivery => state.answer name delivery

def run (state : Concurrent) (moves : List Move) : Concurrent :=
  moves.foldl move state

/-- A session without transactions whose client is new. -/
def ofPool (flavour : Flavour) (pool : Pool) (timeout : Duration) : Concurrent where
  session := { flavour, client := (Client.ofPool pool).withShutdownTimeout timeout }

/-- A step that concerns no busy transaction is taken as in a session, and logged. -/
theorem step_of_free {state : Concurrent} {step : Step} (free : step.name?.any state.isBusy = false)
    (inbox : List Delivery) :
    state.step step inbox =
      { state with
        session := (state.session.step inbox step).2
        log := state.log ++ step.entries (state.session.step inbox step).1.exchanges } := by
  rw [Concurrent.step, free, if_neg Bool.false_ne_true]

/-- What holds at the start and is kept by every move holds after every run. -/
theorem run_induction {Invariant : Concurrent → Prop}
    (kept : ∀ state move, Invariant state → Invariant (state.move move)) {state : Concurrent}
    (initial : Invariant state) (moves : List Move) : Invariant (state.run moves) := by
  induction moves generalizing state with
  | nil => exact initial
  | cons move rest inductionHypothesis => exact inductionHypothesis (kept state move initial)

/-- Where no call waits, no transaction is busy. -/
theorem isBusy_of_calm {state : Concurrent} (calm : state.flights = .empty) (step : Step) :
    step.name?.any state.isBusy = false := by
  cases step.name? with
  | none => rfl
  | some name =>
      rw [Option.any_some, isBusy, flight?, calm, SortedMap.get?_empty]
      rfl

/-- If nobody waits, a run of steps taken at once is a run of the session. -/
theorem run_steps {state : Concurrent} (calm : state.flights = .empty)
    (steps : List ({ step : Step // step.seed? = none } × List Delivery)) :
    (state.run (steps.map fun pair => .step pair.1.1 pair.1.2 pair.2)).session =
      (state.session.run (steps.map fun pair => (pair.1.1, pair.2))).2 := by
  induction steps generalizing state with
  | nil => rfl
  | cons pair rest inductionHypothesis =>
      rw [List.map_cons, List.map_cons, run, List.foldl_cons, move,
        step_of_free (isBusy_of_calm calm pair.1.1)]
      exact inductionHypothesis calm

end Concurrent

end GraphClient
