import GraphClient.Proofs.Transaction.Finality
import GraphClient.Proofs.Transaction.Verdict

namespace GraphClient

/-- A reply has named another start timestamp. -/
def ClientError.IsMismatch (error : ClientError) : Prop :=
  ∃ mismatch, error = .startMismatch mismatch

namespace Turn

/-- The turn leaves all that the transaction has learnt, its mode and the shared watermark as they
were. -/
structure Spares (turn : Turn) : Prop where
  startTimestamp : turn.after.context.startTimestamp = turn.before.context.startTimestamp
  watermark : turn.after.context.watermark = turn.before.context.watermark
  keys : turn.after.context.keys = turn.before.context.keys
  mode : turn.after.mode = turn.before.mode
  unfolded : turn.record.folds = []
  shared : turn.clientAfter.watermark = turn.clientBefore.watermark

/-- The operation is turned away before it asks for an endpoint, and all stays as it was. -/
structure TurnedAway (turn : Turn) : Prop where
  still : turn.before.perform turn.operation = .done (turn.record.outcome, turn.before)
  kept : turn.after = turn.before
  client : turn.clientAfter = turn.clientBefore
  unsent : turn.record.exchanges = []

/-- The transaction is given up. An abort is attempted exactly if something was written, and it is sent
exactly if it is attempted and an endpoint is selected for it; it carries what was held before. -/
structure Abandons (turn : Turn) : Prop where
  finished : turn.after.isFinished = true
  attempt : ∃ cleanup, turn.after.lastCleanup = some cleanup ∧
    (cleanup.wasAttempted = true ↔ turn.after.mutated = true) ∧
    ((∃ exchange ∈ turn.record.exchanges, exchange.isSignal = true) ↔
      cleanup.wasAttempted = true ∧ cleanup ≠ .failed .noEndpoints)
  carries : ∀ exchange ∈ turn.record.exchanges, ∀ context,
    exchange.call = .commitOrAbort context →
      context = { turn.before.context.toWire with aborted := true }

/-- How an operation that was let through leaves its transaction when it fails. -/
def FailsWith (turn : Turn) (error : ClientError) : Prop :=
  match turn.operation with
  | .query _ _ =>
    (error.IsMismatch → turn.Abandons ∧ turn.after.mutated = turn.before.mutated) ∧
      (¬ error.IsMismatch → turn.after = turn.before)
  | .mutate _ =>
    turn.Abandons ∧ (error.IsMismatch → turn.after.mutated = true) ∧
      (¬ error.IsMismatch → turn.after.mutated = turn.before.mutated)
  | .commit =>
    turn.before.isFinished = false ∧ turn.after.isFinished = true ∧
      turn.after = { turn.before with phase := .settled } ∧
      turn.after.lastCleanup = turn.before.lastCleanup
  | .discard | .bestEffort => False

end Turn

namespace ClientError

theorem ofCallFailure_not_mismatch (failure : CallFailure) : ¬ (ofCallFailure failure).IsMismatch := by
  rintro ⟨mismatch, same⟩
  cases failure with
  | noEndpoint => cases same
  | refused error =>
      rw [ofCallFailure, ofCallError] at same
      split at same <;> cases same

theorem ofServerMessage_not_mismatch (message : String) : ¬ (ofServerMessage message).IsMismatch := by
  rintro ⟨mismatch, same⟩
  rw [ofServerMessage] at same
  split at same <;> cases same

theorem ofCallError_ne_noEndpoints (error : CallError) : ofCallError error ≠ .noEndpoints := by
  rw [ofCallError]
  split <;> exact ClientError.noConfusion

end ClientError

/-- None of the errors that a verdict tells apart is a fault of the caller. -/
theorem Call.Verdict.isLifecycle_eq_false {call : Call} {start : UInt64} {selected : Bool}
    {answer : Except CallError call.Reply} {error : ClientError}
    (verdict : call.Verdict start selected answer (.failed error)) : error.isLifecycle = false := by
  rcases verdict.otherwise with
    (same | ⟨_, same⟩ | ⟨_, same⟩ | ⟨_, same⟩ | ⟨_, same⟩) | ⟨-, reply, -, served⟩
  · cases same; rfl
  · cases same; rfl
  · cases same; rfl
  · cases same; rfl
  · cases same; rfl
  · exact absurd served.symm (call.served_ne_failed reply error)

namespace Transaction

variable {transaction after : Transaction} {operation : Operation} {events : List Event}
  {error : ClientError} {occasion : Occasion} {context : WireContext}

/-- A write that was not applied fails for another reason than its start timestamp. -/
theorem mutationError_not_mismatch {answer : Except CallFailure MutationReply}
    (refused : mutationError answer = .error error) : ¬ error.IsMismatch := by
  cases answer with
  | error failure =>
      cases refused
      exact ClientError.ofCallFailure_not_mismatch failure
  | ok reply =>
      rw [mutationError] at refused
      split at refused
      next message _ =>
        cases refused
        exact ClientError.ofServerMessage_not_mismatch message
      next => cases refused

/-- Releasing a transaction takes nothing over. -/
theorem Releases.spares (released : transaction.Releases events after) :
    after.context.startTimestamp = transaction.context.startTimestamp ∧
      after.context.watermark = transaction.context.watermark ∧
      after.context.keys = transaction.context.keys ∧ after.mode = transaction.mode := by
  cases released with
  | finished => exact ⟨rfl, rfl, rfl, rfl⟩
  | skipped => exact ⟨rfl, rfl, rfl, rfl⟩
  | aborted => exact ⟨rfl, rfl, rfl, rfl⟩

theorem folds_eq_nil_of_released {call : Call} {answer : Except CallFailure call.Reply}
    {event : Event} (asked : call.Gets answer event) (released : transaction.Releases events after) :
    Event.folds (event :: events) = [] := by
  have alone := asked.folds_eq_nil
  rw [← List.singleton_append, Event.folds_append, alone, released.folds_eq_nil, List.append_nil]

/-- An operation that fails takes nothing over and folds nothing. -/
theorem Performs.spares (performed : transaction.Performs operation events (.failed error) after) :
    (after.context.startTimestamp = transaction.context.startTimestamp ∧
      after.context.watermark = transaction.context.watermark ∧
      after.context.keys = transaction.context.keys ∧ after.mode = transaction.mode) ∧
    Event.folds events = [] := by
  cases performed with
  | queryFinished => exact ⟨⟨rfl, rfl, rfl, rfl⟩, rfl⟩
  | queryFailed active asked => exact ⟨⟨rfl, rfl, rfl, rfl⟩, asked.folds_eq_nil⟩
  | queryMismatched active asked clashing released =>
      exact ⟨released.spares, folds_eq_nil_of_released asked released⟩
  | mutateFinished => exact ⟨⟨rfl, rfl, rfl, rfl⟩, rfl⟩
  | mutateReadOnly => exact ⟨⟨rfl, rfl, rfl, rfl⟩, rfl⟩
  | mutateFailed active writable asked refused released =>
      exact ⟨released.spares, folds_eq_nil_of_released asked released⟩
  | mutateMismatched active writable asked applied clashing released =>
      exact ⟨released.spares, folds_eq_nil_of_released asked released⟩
  | commitFinished => exact ⟨⟨rfl, rfl, rfl, rfl⟩, rfl⟩
  | commitFailed active written asked refused => exact ⟨⟨rfl, rfl, rfl, rfl⟩, asked.folds_eq_nil⟩
  | bestEffortRefused => exact ⟨⟨rfl, rfl, rfl, rfl⟩, rfl⟩

/-- What is recorded of the abort of a transaction that is released tells whether it was attempted and
whether it was sent. -/
theorem Releases.recorded (released : transaction.Releases events after)
    (active : transaction.isFinished = false) :
    ∃ cleanup, after.lastCleanup = some cleanup ∧
      (cleanup.wasAttempted = true ↔ after.mutated = true) ∧
      ((∃ exchange ∈ Event.exchanges events, exchange.isSignal = true) ↔
        cleanup.wasAttempted = true ∧ cleanup ≠ .failed .noEndpoints) := by
  cases released with
  | finished closed => rw [active] at closed; cases closed
  | skipped active unwritten =>
      refine ⟨.skipped, rfl, ?_, ?_⟩
      · simp [Cleanup.wasAttempted, unwritten]
      · simp [Cleanup.wasAttempted]
  | @aborted _ written answer event asked =>
      cases answer with
      | error failure =>
          refine ⟨.failed (.ofCallFailure failure), rfl, by simp [Cleanup.wasAttempted, written], ?_⟩
          rcases asked.of_error with ⟨rfl, rfl⟩ | ⟨position, endpoint, error, rfl, rfl⟩
          · simp [ClientError.ofCallFailure]
          · have sent := ClientError.ofCallError_ne_noEndpoints error
            simp [Cleanup.wasAttempted, Exchange.isSignal, ClientError.ofCallFailure, sent]
      | ok reply =>
          refine ⟨.completed, rfl, by simp [Cleanup.wasAttempted, written], ?_⟩
          obtain ⟨position, endpoint, rfl⟩ := asked.of_ok
          simp [Cleanup.wasAttempted, Exchange.isSignal]

/-- Whatever a read or a write sends besides its own call is an abort with what was held before. -/
theorem Sends.context_eq (sends : transaction.Sends operation (.commitOrAbort context))
    (uncommitted : operation ≠ .commit) :
    context = { transaction.context.toWire with aborted := true } := by
  cases sends with
  | commit => exact absurd rfl uncommitted
  | abort => rfl

/-- An operation that its guard lets through does not fail by a fault of the caller. -/
theorem isLifecycle_eq_false_of_guard (free : transaction.guardError? operation = none)
    {surroundings : Surroundings}
    (failed : ((transaction.perform operation).run surroundings).1.1 = .failed error) :
    error.isLifecycle = false := by
  cases needed : transaction.neededCall? operation with
  | some call =>
      have verdict := call.verdict_outcome transaction.context.startTimestamp
        (surroundings.client.selects (surroundings.traffic.inbox.headD {}))
        (surroundings.client.hears (surroundings.traffic.inbox.headD {}) call)
      rw [outcome_of_neededCall free needed, Surroundings.exchange_answer] at failed
      exact Call.Verdict.isLifecycle_eq_false (failed ▸ verdict)
  | none =>
      cases operation with
      | query | mutate => cases needed
      | commit =>
          have active : transaction.isFinished = false := by simpa [guardError?] using free
          have unwritten : transaction.mutated = false := by simpa [neededCall?] using needed
          rw [perform_commit_of_unwritten active unwritten] at failed
          cases failed
      | discard =>
          change ((transaction.discard.bind fun released =>
            .done (Outcome.done, released)).run surroundings).1.1 = _ at failed
          rw [Plan.run_bind] at failed
          cases failed
      | bestEffort =>
          have changeable : transaction.mode.isReadOnly = true := by simpa [guardError?] using free
          rw [perform, withBestEffort, if_pos changeable] at failed
          cases failed

/-- An operation that fails by a fault of the caller does nothing. -/
theorem turnedAway_of_lifecycle
    (failed : (transaction.turn occasion).record.outcome = .failed error)
    (lifecycle : error.isLifecycle = true) : (transaction.turn occasion).TurnedAway := by
  cases guard : transaction.guardError? occasion.operation with
  | none =>
      have allowed := isLifecycle_eq_false_of_guard guard failed
      rw [lifecycle] at allowed
      cases allowed
  | some refusal =>
      have still := perform_of_guardError guard
      have taken : transaction.turn occasion =
          { operation := occasion.operation
            before := transaction
            after := transaction
            clientBefore := occasion.client
            clientAfter := occasion.client
            record := { outcome := .failed refusal, unused := occasion.inbox.length } } := by
        rw [turn, still]
        rfl
      rw [taken]
      exact ⟨still, rfl, rfl, rfl⟩

end Transaction

namespace Turn

variable {turn : Turn} {origin : Transaction} {call : Call} {event : Event} {events : List Event}
  {error : ClientError}

/-- A read or a write after whose call the transaction is released gives it up. -/
theorem abandons_of_releases {answer : Except CallFailure call.Reply}
    (performed :
      turn.before.Performs turn.operation (event :: events) turn.record.outcome turn.after)
    (shown : turn.record.exchanges = Event.exchanges (event :: events))
    (uncommitted : turn.operation ≠ .commit) (asked : call.Gets answer event)
    (unsignalled : ∀ context, call ≠ .commitOrAbort context)
    (released : origin.Releases events turn.after) (active : origin.isFinished = false) :
    turn.Abandons := by
  have silent : ∀ exchange ∈ Event.exchanges [event], exchange.isSignal = false := by
    cases asked with
    | unsent => simp
    | exchanged position endpoint answer =>
        cases call <;> simp_all [Exchange.isSignal]
  obtain ⟨cleanup, recorded, attempted, sent⟩ := released.recorded active
  constructor
  · exact released.finished_after
  · refine ⟨cleanup, recorded, attempted, ?_⟩
    rw [shown, ← List.singleton_append, Event.exchanges_append, ← sent]
    constructor
    · rintro ⟨exchange, member, signals⟩
      rcases List.mem_append.1 member with own | later
      · rw [silent exchange own] at signals
        cases signals
      · exact ⟨exchange, later, signals⟩
    · rintro ⟨exchange, member, signals⟩
      exact ⟨exchange, List.mem_append_right _ member, signals⟩
  · intro exchange member context carried
    rw [shown] at member
    have sends := performed.sends_of_exchange member
    rw [carried] at sends
    exact sends.context_eq uncommitted

/-- Each operation that is let through and fails leaves its transaction in its own way. -/
theorem failsWith_of_performs
    (performed : turn.before.Performs turn.operation events turn.record.outcome turn.after)
    (shown : turn.record.exchanges = Event.exchanges events)
    (failed : turn.record.outcome = .failed error) (allowed : error.isLifecycle = false) :
    turn.FailsWith error := by
  have gives_up := @abandons_of_releases turn
  obtain ⟨operation, before, after, clientBefore, clientAfter, outcome, exchanges, folds, unused⟩ :=
    turn
  dsimp only at performed shown failed gives_up
  have course := performed
  subst failed
  cases performed with
  | queryFinished | mutateFinished | mutateReadOnly | commitFinished | bestEffortRefused =>
      cases allowed
  | @queryFailed _ _ failure _ active asked =>
      exact ⟨fun mismatch => absurd mismatch (ClientError.ofCallFailure_not_mismatch failure),
        fun _ => rfl⟩
  | queryMismatched active asked clashing released =>
      have abandons := gives_up course shown (by simp) asked (by simp) released active
      exact ⟨fun _ => ⟨abandons, released.mutated_eq⟩, fun other => absurd ⟨_, rfl⟩ other⟩
  | mutateFailed active writable asked refused released =>
      have abandons := gives_up course shown (by simp) asked (by simp) released active
      have other := Transaction.mutationError_not_mismatch refused
      exact ⟨abandons, fun mismatch => absurd mismatch other, fun _ => released.mutated_eq⟩
  | mutateMismatched active writable asked applied clashing released =>
      have abandons := gives_up course shown (by simp) asked (by simp) released active
      exact ⟨abandons, fun _ => released.mutated_eq, fun other => absurd ⟨_, rfl⟩ other⟩
  | commitFailed active written asked refused =>
      refine ⟨active, rfl, rfl, ?_⟩
      have unreleased : before.lastCleanup = none := by
        have phase : before.phase = .active := by simpa [Transaction.isFinished] using active
        rw [Transaction.lastCleanup, phase]
      rw [unreleased]
      rfl

end Turn

namespace Transaction

/-- An operation that fails leaves all that its transaction has learnt, its mode and the shared
watermark as they were. One that the caller had no right to does nothing at all. Any other leaves
the transaction as it was, gives it up or, if it is a commit, settles it. -/
theorem failed_turn_spares (transaction : Transaction) (occasion : Occasion) (error : ClientError)
    (failed : (transaction.turn occasion).record.outcome = .failed error) :
    let turn := transaction.turn occasion
    turn.Spares ∧ (error.isLifecycle = true → turn.TurnedAway) ∧
      (error.isLifecycle = false → turn.FailsWith error) := by
  intro turn
  obtain ⟨events, performed, sent, folded, shared⟩ := transaction.turn_performs occasion
  have course := performed
  rw [failed] at course
  obtain ⟨⟨startTimestamp, watermark, keys, mode⟩, unfolded⟩ := course.spares
  rw [unfolded] at folded shared
  refine ⟨⟨startTimestamp, watermark, keys, mode, folded, ?_⟩, ?_, ?_⟩
  · rw [Watermark.join_nil, sup_bot_eq] at shared
    exact shared
  · exact turnedAway_of_lifecycle failed
  · exact Turn.failsWith_of_performs performed sent failed

/-- A write whose reply names another start timestamp counts as written, though nothing of the reply is
taken over. -/
theorem failed_turn_spares_of_mismatched_write :
    let writer : Transaction :=
      { context := { startTimestamp := 7, watermark := .ofList [(1, 4)] }, mode := .readWrite }
    let delivery : Delivery :=
      { answer := fun
          | .mutate _ => .ok { context := { startTimestamp := 8, watermark := .ofList [(1, 9)] } }
          | call => .ok call.emptyReply }
    let turn := writer.turn ⟨.mutate {}, .ofPool (.ofEndpoints [{}]), [delivery]⟩
    turn.record.outcome = .failed (.startMismatch ⟨7, 8⟩) ∧ turn.Spares ∧ turn.Abandons ∧
      turn.after.mutated = true := by
  intro writer delivery turn
  have failed : turn.record.outcome = .failed (.startMismatch ⟨7, 8⟩) := by decide
  obtain ⟨spares, -, allowed⟩ := failed_turn_spares writer _ _ failed
  obtain ⟨abandons, written, -⟩ : turn.FailsWith (.startMismatch ⟨7, 8⟩) := allowed rfl
  exact ⟨failed, spares, abandons, written ⟨_, rfl⟩⟩

end Transaction

end GraphClient
