import GraphClient.Proofs.Client.Concurrent
import GraphClient.Proofs.Client.StepPlan
import GraphClient.Proofs.Pool.Rotation
import GraphClient.Proofs.Transaction.Verdict

namespace GraphClient

/-- A call that was sent, and the endpoint that it was sent to. -/
structure Dispatch where
  position : Nat
  endpoint : Endpoint
  call : Call
deriving DecidableEq

def Exchange.dispatch (exchange : Exchange) : Dispatch :=
  ⟨exchange.position, exchange.endpoint, exchange.call⟩

def Flight.dispatch (flight : Flight) : Dispatch :=
  ⟨flight.position, flight.endpoint, flight.message⟩

namespace Dispatch

/-- The calls go round the endpoints. The first of them is the one after `count` others; the counter of
turns begins anew after the last number that it can hold. -/
def Rotate (endpoints : List Endpoint) : Nat → List Dispatch → Prop
  | _, [] => True
  | count, dispatch :: rest =>
    dispatch.position = count % UInt64.size % endpoints.length ∧
      endpoints[dispatch.position]? = some dispatch.endpoint ∧ Rotate endpoints (count + 1) rest

variable {endpoints : List Endpoint} {count : Nat} {first second sent : List Dispatch}

theorem Rotate.append (early : Rotate endpoints count first)
    (late : Rotate endpoints (count + first.length) second) :
    Rotate endpoints count (first ++ second) := by
  induction first generalizing count with
  | nil => exact late
  | cons dispatch rest inductionHypothesis =>
      obtain ⟨position, endpoint, onward⟩ := early
      rw [List.length_cons, Nat.add_comm rest.length, ← Nat.add_assoc] at late
      exact ⟨position, endpoint, inductionHypothesis onward late⟩

/-- A call of a rotation goes to the endpoint of its turn. -/
theorem Rotate.getElem? (rotate : Rotate endpoints count sent) {index : Nat} {dispatch : Dispatch}
    (found : sent[index]? = some dispatch) :
    dispatch.position = (count + index) % UInt64.size % endpoints.length ∧
      endpoints[dispatch.position]? = some dispatch.endpoint := by
  induction sent generalizing count index with
  | nil => cases found
  | cons head rest inductionHypothesis =>
      obtain ⟨position, endpoint, onward⟩ := rotate
      cases index with
      | zero =>
          cases found
          exact ⟨position, endpoint⟩
      | succ index =>
          rw [List.getElem?_cons_succ] at found
          have later := inductionHypothesis onward found
          rwa [Nat.add_assoc, Nat.add_comm 1] at later

end Dispatch

open Dispatch

section Turning

variable {endpoints : List Endpoint} {deadline : Option Duration} {count : Nat}
  {surroundings : Surroundings}

/-- A call takes one turn, and it is sent to the endpoint whose turn it is. -/
theorem Surroundings.exchange_turning (filled : endpoints ≠ [])
    (turning : surroundings.client.pool = Pool.turning endpoints deadline count) (message : Call) :
    ∃ exchange : Exchange,
      (surroundings.exchange message).2.traffic.exchanges =
          surroundings.traffic.exchanges ++ [exchange] ∧
        Rotate endpoints count [exchange.dispatch] ∧
        (surroundings.exchange message).2.client.pool =
          Pool.turning endpoints deadline (count + 1) := by
  obtain ⟨⟨pool, shared, timeout⟩, traffic, folds⟩ := surroundings
  dsimp only at turning
  subst turning
  obtain ⟨endpoint, found, picked⟩ :=
    @Pool.pick_turning endpoints deadline count filled (traffic.inbox.headD {}).draw
  simp only [exchange, Pool.exchange, picked]
  exact ⟨_, rfl, ⟨rfl, found, trivial⟩, trivial⟩

/-- A plan takes as many turns as it sends calls. -/
theorem Plan.run_turning {Result : Type} (plan : Plan Result) (filled : endpoints ≠ [])
    (turning : surroundings.client.pool = Pool.turning endpoints deadline count) :
    ∃ shown : List Exchange,
      (plan.run surroundings).2.traffic.exchanges = surroundings.traffic.exchanges ++ shown ∧
        Rotate endpoints count (shown.map Exchange.dispatch) ∧
        (plan.run surroundings).2.client.pool =
          Pool.turning endpoints deadline (count + shown.length) := by
  induction plan generalizing surroundings count with
  | done result => exact ⟨[], (List.append_nil _).symm, trivial, turning⟩
  | call message resume inductionHypothesis =>
      obtain ⟨exchange, sent, rotate, turned⟩ :=
        surroundings.exchange_turning filled turning message
      obtain ⟨shown, grown, onward, last⟩ :=
        inductionHypothesis (surroundings.exchange message).1 turned
      refine ⟨exchange :: shown, ?_, ?_, ?_⟩
      · rw [run_call, grown, sent, List.append_assoc, List.singleton_append]
      · exact Rotate.append rotate onward
      · rw [run_call, last, List.length_cons, Nat.add_comm shown.length, Nat.add_assoc]
  | fold update rest inductionHypothesis =>
      exact @inductionHypothesis count (surroundings.fold update) turning

/-- A plan that begins with a call sends it. -/
theorem Plan.run_call_sends {Result : Type} {message : Call}
    {resume : Except CallFailure message.Reply → Plan Result} (filled : endpoints ≠ [])
    (turning : surroundings.client.pool = Pool.turning endpoints deadline count) :
    ((call message resume).run surroundings).2.traffic.exchanges ≠
      surroundings.traffic.exchanges := by
  obtain ⟨exchange, sent, -, turned⟩ := surroundings.exchange_turning filled turning message
  obtain ⟨shown, grown, -⟩ :=
    (resume (surroundings.exchange message).1).run_turning filled turned
  rw [run_call, grown, sent, List.append_assoc]
  intro same
  simp at same

end Turning

/-- The operation asks nothing of the nodes: a guard turns it away, or there is nothing to commit, to
release or to send. -/
def Transaction.Rests (transaction : Transaction) : Operation → Prop
  | .query _ _ => transaction.isFinished = true
  | .mutate _ => transaction.isFinished = true ∨ transaction.mode.isReadOnly = true
  | .commit | .discard => transaction.isFinished = true ∨ transaction.mutated = false
  | .bestEffort => True

namespace Session

/-- The step asks nothing of the nodes. Letting go of a transaction does so only where a blocking client
has something to release. -/
def Rests (session : Session) : Step → Prop
  | .clone _ | .close _ _ | .shutdown _ | .look => True
  | .begin name _ _ mayNotBlock | .drop name mayNotBlock =>
    ∀ old, session.transaction? name = some old →
      session.flavour = .asynchronous ∨ mayNotBlock = true ∨ old.Rests .discard
  | .operate name operation => ∀ transaction, session.transaction? name = some transaction →
      transaction.Rests operation
  | .alter _ | .checkVersion => False

end Session

namespace Plan

variable {First Second : Type} {plan : Plan First} {rests : Prop}

/-- The plan is at its end. -/
def Ended (plan : Plan First) : Prop :=
  ∃ result, plan = .done result

/-- The plan begins with a call. -/
def Calls (plan : Plan First) : Prop :=
  ∃ message resume, plan = .call message resume

/-- The plan asks nothing of the nodes exactly under this condition. -/
def RestsIff (plan : Plan First) (rests : Prop) : Prop :=
  rests ∧ plan.Ended ∨ ¬ rests ∧ plan.Calls

theorem restsIff_of_ended (holds : rests) (ended : plan.Ended) : plan.RestsIff rests :=
  .inl ⟨holds, ended⟩

theorem restsIff_of_calls (fails : ¬ rests) (calls : plan.Calls) : plan.RestsIff rests :=
  .inr ⟨fails, calls⟩

/-- What follows without a call does not change when the plan rests. -/
theorem RestsIff.bind (course : plan.RestsIff rests) {next : First → Plan Second}
    (onward : ∀ result, (next result).Ended) : (plan.bind next).RestsIff rests := by
  rcases course with ⟨holds, result, rfl⟩ | ⟨fails, message, resume, rfl⟩
  · exact restsIff_of_ended holds (onward result)
  · exact restsIff_of_calls fails ⟨message, _, rfl⟩

end Plan

open Plan

namespace Transaction

variable {transaction : Transaction}

/-- A discard asks nothing exactly if the transaction is finished or has not written. -/
theorem discard_restsIff (transaction : Transaction) :
    transaction.discard.RestsIff (transaction.Rests .discard) := by
  cases closed : transaction.isFinished with
  | true =>
      rw [discard, closed, if_pos rfl]
      exact restsIff_of_ended (.inl closed) ⟨_, rfl⟩
  | false =>
      cases written : transaction.mutated with
      | true =>
          rw [discard, closed, if_neg Bool.false_ne_true, written, if_pos rfl]
          exact restsIff_of_calls (by simp [Rests, closed, written]) ⟨_, _, rfl⟩
      | false =>
          rw [discard, closed, if_neg Bool.false_ne_true, written, if_neg Bool.false_ne_true]
          exact restsIff_of_ended (.inr written) ⟨_, rfl⟩

/-- An operation asks nothing exactly if it rests. -/
theorem perform_restsIff (transaction : Transaction) (operation : Operation) :
    (transaction.perform operation).RestsIff (transaction.Rests operation) := by
  cases closed : transaction.isFinished with
  | true =>
      rw [perform_of_finished closed]
      refine restsIff_of_ended ?_ ⟨_, rfl⟩
      cases operation <;> simp [Rests, closed]
  | false =>
      cases operation with
      | query text bindings =>
          rw [perform_query_of_active closed]
          exact restsIff_of_calls (by simp [Rests, closed]) ⟨_, _, rfl⟩
      | mutate mutation =>
          cases writable : transaction.mode.isReadOnly with
          | true =>
              rw [perform_mutate_of_readOnly closed writable]
              exact restsIff_of_ended (.inr writable) ⟨_, rfl⟩
          | false =>
              rw [perform_mutate_of_active closed writable]
              exact restsIff_of_calls (by simp [Rests, closed, writable]) ⟨_, _, rfl⟩
      | commit =>
          cases written : transaction.mutated with
          | true =>
              rw [perform_commit_of_active closed written]
              exact restsIff_of_calls (by simp [Rests, closed, written]) ⟨_, _, rfl⟩
          | false =>
              rw [perform_commit_of_unwritten closed written]
              exact restsIff_of_ended (.inr written) ⟨_, rfl⟩
      | discard => exact transaction.discard_restsIff.bind fun _ => ⟨_, rfl⟩
      | bestEffort =>
          rw [perform]
          cases transaction.withBestEffort <;> exact restsIff_of_ended trivial ⟨_, rfl⟩

end Transaction

namespace Session

variable {session : Session} {step : Step}

/-- Letting go of a transaction asks nothing exactly if the step rests. -/
theorem letGo_restsIff (session : Session) (name : String) (mayNotBlock : Bool) :
    (session.letGo name mayNotBlock).RestsIff (session.Rests (.drop name mayNotBlock)) := by
  rw [letGo, Rests]
  cases session.transaction? name with
  | none => exact restsIff_of_ended (fun _ missing => by cases missing) ⟨_, rfl⟩
  | some old =>
      simp only [Option.some.injEq, forall_eq']
      refine RestsIff.bind ?_ fun _ => ⟨_, rfl⟩
      cases session.flavour with
      | asynchronous => exact restsIff_of_ended (.inl rfl) ⟨_, rfl⟩
      | blocking =>
          cases mayNotBlock with
          | true => exact restsIff_of_ended (.inr (.inl rfl)) ⟨_, rfl⟩
          | false => simpa [dropPlan] using old.discard_restsIff

/-- The plan of a step asks nothing of the nodes exactly if the step rests. -/
theorem plan_restsIff (session : Session) (step : Step) :
    (session.plan step).RestsIff (session.Rests step) := by
  cases step with
  | clone | look | close | shutdown => exact restsIff_of_ended trivial ⟨_, rfl⟩
  | alter | checkVersion => exact restsIff_of_calls id ⟨_, _, rfl⟩
  | begin name mode seed mayNotBlock =>
      exact (session.letGo_restsIff name mayNotBlock).bind fun _ => ⟨_, rfl⟩
  | drop name mayNotBlock =>
      refine (session.letGo_restsIff name mayNotBlock).bind fun _ => ?_
      cases session.transaction? name <;> exact ⟨_, rfl⟩
  | operate name operation =>
      rw [plan, Rests]
      cases session.transaction? name with
      | none => exact restsIff_of_ended (fun _ missing => by cases missing) ⟨_, rfl⟩
      | some transaction =>
          simp only [Option.some.injEq, forall_eq']
          exact (transaction.perform_restsIff operation).bind fun _ => ⟨_, rfl⟩

section Turning

variable {endpoints : List Endpoint} {deadline : Option Duration} {count : Nat}

/-- A step takes as many turns as it sends calls. -/
theorem step_turning (filled : endpoints ≠ [])
    (turning : session.client.pool = Pool.turning endpoints deadline count)
    (inbox : List Delivery) (step : Step) :
    let (record, after) := session.step inbox step
    Rotate endpoints count (record.exchanges.map Exchange.dispatch) ∧
      after.client.pool = Pool.turning endpoints deadline (count + record.exchanges.length) := by
  obtain ⟨shown, sent, rotate, turned⟩ :=
    @Plan.run_turning _ _ count (session.surroundings inbox) _ (session.plan step) filled turning
  have exchanges : (session.step inbox step).1.exchanges = shown := by
    rw [step_eq_carryOut]
    exact sent
  dsimp only
  rw [exchanges, step_eq_carryOut]
  exact ⟨rotate, turned⟩

/-- A step sends nothing exactly if it rests. -/
theorem exchanges_eq_nil_iff (filled : endpoints ≠ [])
    (turning : session.client.pool = Pool.turning endpoints deadline count)
    (inbox : List Delivery) (step : Step) :
    (session.step inbox step).1.exchanges = [] ↔ session.Rests step := by
  rw [step_eq_carryOut, carryOut]
  rcases session.plan_restsIff step with ⟨rests, result, ended⟩ | ⟨works, message, resume, calls⟩
  · rw [ended]
    exact iff_of_true rfl rests
  · rw [calls]
    exact iff_of_false (Plan.run_call_sends filled turning) works

end Turning

end Session

/-- The call that waits at a pause has just been sent. -/
def Pause.dispatches : Pause → List Dispatch
  | ended _ _ => []
  | waiting flight => [flight.dispatch]

namespace Concurrent

/-- The calls that a move sends, in order. -/
def dispatches (state : Concurrent) : Move → List Dispatch
  | .step step _ inbox =>
    if step.name?.any state.isBusy then []
    else (state.session.step inbox step).1.exchanges.map Exchange.dispatch
  | .start name operation draw =>
    match state.flight? name, state.session.transaction? name with
    | none, some transaction =>
      ((transaction.perform operation).advance draw state.session.client).1.dispatches
    | _, _ => []
  | .answer name delivery =>
    match state.flight? name with
    | none => []
    | some flight =>
      ((flight.resume ((state.arrival flight delivery).answer.mapError .refused)).advance
        delivery.draw state.session.client).1.dispatches

/-- The calls that a run sends, in order. -/
def sends (state : Concurrent) : List Move → List Dispatch
  | [] => []
  | move :: rest => state.dispatches move ++ (state.move move).sends rest

variable {state : Concurrent} {endpoints : List Endpoint} {deadline : Option Duration} {count : Nat}

/-- If nobody waits, the calls of a run of steps are those that its records show. -/
theorem sends_steps (calm : state.flights = .empty)
    (steps : List ({ step : Step // step.seed? = none } × List Delivery)) :
    state.sends (steps.map fun pair => .step pair.1.1 pair.1.2 pair.2) =
      (state.session.run (steps.map fun pair => (pair.1.1, pair.2))).1.flatMap fun record =>
        record.exchanges.map Exchange.dispatch := by
  induction steps generalizing state with
  | nil => rfl
  | cons pair rest inductionHypothesis =>
      have free := isBusy_of_calm calm pair.1.1
      rw [List.map_cons, List.map_cons, sends, dispatches, free, move, step_of_free free]
      exact congrArg _ (inductionHypothesis calm)

/-- Up to a pause an operation sends one call or none, and takes a turn for it. -/
theorem advance_turning (filled : endpoints ≠ []) (plan : Plan (Outcome × Transaction)) (draw : Nat)
    {client : Client} (turning : client.pool = Pool.turning endpoints deadline count) :
    let (pause, after) := plan.advance draw client
    Rotate endpoints count pause.dispatches ∧
      after.pool = Pool.turning endpoints deadline (count + pause.dispatches.length) := by
  induction plan generalizing client with
  | done result => exact ⟨trivial, turning⟩
  | fold update rest inductionHypothesis =>
      exact @inductionHypothesis { client with shared := client.shared.foldIn update } turning
  | call message resume inductionHypothesis =>
      obtain ⟨endpoint, found, picked⟩ :=
        @Pool.pick_turning endpoints deadline count filled draw
      rw [Plan.advance, turning, picked]
      exact ⟨⟨rfl, found, trivial⟩, rfl⟩

/-- A move takes as many turns as it sends calls. -/
theorem move_turning (filled : endpoints ≠ [])
    (turning : state.session.client.pool = Pool.turning endpoints deadline count) (move : Move) :
    Rotate endpoints count (state.dispatches move) ∧
      (state.move move).session.client.pool =
        Pool.turning endpoints deadline (count + (state.dispatches move).length) := by
  cases move with
  | step step unseeded inbox =>
      rw [dispatches, Concurrent.move]
      cases busy : step.name?.any state.isBusy with
      | true =>
          rw [Concurrent.step, busy, if_pos rfl, if_pos rfl]
          exact ⟨trivial, turning⟩
      | false =>
          rw [step_of_free busy, if_neg Bool.false_ne_true, List.length_map]
          exact Session.step_turning filled turning inbox step
  | start name operation draw =>
      rw [dispatches, Concurrent.move, start]
      cases state.flight? name with
      | some flight => exact ⟨trivial, turning⟩
      | none =>
          cases state.session.transaction? name with
          | none => exact ⟨trivial, turning⟩
          | some transaction =>
              dsimp only
              rw [client_pause]
              exact advance_turning filled _ draw turning
  | answer name delivery =>
      rw [dispatches, Concurrent.move, answer]
      cases state.flight? name with
      | none => exact ⟨trivial, turning⟩
      | some flight =>
          dsimp only
          rw [client_pause]
          exact advance_turning filled _ delivery.draw turning

/-- All calls that the moves send are one rotation, and the pool has taken one turn for each. -/
theorem run_turning (filled : endpoints ≠ [])
    (turning : state.session.client.pool = Pool.turning endpoints deadline count)
    (moves : List Move) :
    Rotate endpoints count (state.sends moves) ∧
      (state.run moves).session.client.pool =
        Pool.turning endpoints deadline (count + (state.sends moves).length) := by
  induction moves generalizing state count with
  | nil => exact ⟨trivial, turning⟩
  | cons move rest inductionHypothesis =>
      obtain ⟨now, turned⟩ := state.move_turning filled turning move
      obtain ⟨later, last⟩ := inductionHypothesis turned
      rw [sends, List.length_append, ← Nat.add_assoc]
      exact ⟨now.append later, last⟩

/-- Round robin over the whole client. Whoever sends them and why, the calls of a client go round its
endpoints in the order of registration, as long as their number does not exceed that of the turns that
can be counted. The turns taken are as many as the calls sent, and a step sends nothing exactly if it
has nothing to ask of the nodes. -/
theorem run_rotates (flavour : Flavour) (endpoints : List Endpoint) (filled : endpoints ≠ [])
    (deadline : Option Duration) (timeout : Duration) (moves : List Move) :
    let pool : Pool := { endpoints, policy := Selection.roundRobin.policy, deadline }
    let sent := (ofPool flavour pool timeout).sends moves
    let last := (ofPool flavour pool timeout).run moves
    (∀ index dispatch, sent[index]? = some dispatch → index < UInt64.size →
        dispatch.position = index % endpoints.length ∧
          endpoints[index % endpoints.length]? = some dispatch.endpoint) ∧
      last.session.client.pool =
        { pool with policy := .roundRobin (UInt64.ofNat sent.length) } ∧
      ∀ inbox step,
        (last.session.step inbox step).1.exchanges = [] ↔ last.session.Rests step := by
  intro pool sent last
  have fresh : (ofPool flavour pool timeout).session.client.pool =
      Pool.turning endpoints deadline 0 := rfl
  obtain ⟨rotate, turned⟩ := run_turning filled fresh moves
  rw [Nat.zero_add] at turned
  refine ⟨?_, turned, ?_⟩
  · intro index dispatch found counted
    obtain ⟨position, endpoint⟩ := rotate.getElem? found
    rw [Nat.zero_add, Nat.mod_eq_of_lt counted] at position
    rw [position] at endpoint
    exact ⟨position, endpoint⟩
  · intro inbox step
    exact last.session.exchanges_eq_nil_iff filled turned inbox step

/-- While a write waits for its answer the client asks for the version; the write is then refused, and
the abort of its transaction takes the next turn. -/
theorem run_rotates_of_refused_write :
    let endpoints : List Endpoint := [{ label := "a" }, { label := "b" }, { label := "c" }]
    let pool : Pool := { endpoints, policy := Selection.roundRobin.policy }
    let refusal : Delivery :=
      { answer := fun
          | .mutate _ => .error ⟨.unavailable, "down"⟩
          | other => .ok other.emptyReply }
    let sent := (ofPool .asynchronous pool .zero).sends
      [.step (.begin "" .readWrite none false) rfl [], .step (.operate "" (.mutate {})) rfl [],
        .start "" (.mutate {}) 0, .step .checkVersion rfl [], .answer "" refusal]
    endpoints ≠ [] ∧
      sent.map (fun dispatch => dispatch.call) =
        [.mutate {}, .mutate {}, .checkVersion, .commitOrAbort { aborted := true }] ∧
      ∀ dispatch, sent[3]? = some dispatch → dispatch.position = 3 % 3 := by
  intro endpoints pool refusal sent
  have filled : endpoints ≠ [] := List.cons_ne_nil _ _
  obtain ⟨rotates, -⟩ := run_rotates .asynchronous endpoints filled none .zero
    [.step (.begin "" .readWrite none false) rfl [], .step (.operate "" (.mutate {})) rfl [],
      .start "" (.mutate {}) 0, .step .checkVersion rfl [], .answer "" refusal]
  refine ⟨filled, by decide, ?_⟩
  intro dispatch found
  exact (rotates 3 dispatch found (by decide)).1

end Concurrent

end GraphClient
