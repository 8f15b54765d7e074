/-
What a caller learns from the outcome of a call. An operation that its guard lets through needs one
call of its own, and the outcome says what came of that call and of nothing else. Whatever is done
to release a transaction before the outcome is returned has no bearing on it.
-/

import GraphClient.Proofs.Transaction.Ledger

namespace GraphClient

/-- Two statuses report that a transaction has lost a conflict. -/
theorem CallError.isConflict_iff {error : CallError} :
    error.isConflict = true ↔ error.status = .aborted ∨ error.status = .failedPrecondition := by
  obtain ⟨status, message⟩ := error
  cases status <;> simp [isConflict, Status.isConflict]

/-- A text that is not empty is the error that the reply states. -/
theorem MutationReply.statedError_of_ne {reply : MutationReply}
    (stated : reply.error.getD "" ≠ "") :
    reply.statedError = some (reply.error.getD "") := by
  cases given : reply.error with
  | none => simp [given] at stated
  | some message =>
      rw [given, Option.getD_some] at stated
      simp [statedError, given, Option.filter, stated]

namespace Call

/-- The error text inside a reply; only the reply to a write has room for one. -/
def statedText : (call : Call) → call.Reply → String
  | mutate _, reply => reply.error.getD ""
  | query _, _ | commitOrAbort _, _ | alter _, _ | checkVersion, _ => ""

/-- The start timestamp that a reply names; a reply without any names zero, which is none. -/
def named : (call : Call) → call.Reply → UInt64
  | query _, reply => reply.context.startTimestamp
  | mutate _, reply => reply.context.startTimestamp
  | commitOrAbort _, reply => reply.startTimestamp
  | alter _, _ | checkVersion, _ => 0

/-- The node says in its reply that it has refused the commit. -/
def isRefused : (call : Call) → call.Reply → Bool
  | commitOrAbort _, reply => reply.aborted
  | query _, _ | mutate _, _ | alter _, _ | checkVersion, _ => false

/-- What the caller gets if nothing is wrong with the reply: the reply as it came. -/
def served : (call : Call) → call.Reply → Outcome
  | query _, reply => .queried reply
  | mutate _, reply => .mutated reply
  | commitOrAbort _, _ => .done
  | alter _, reply => .altered reply
  | checkVersion, reply => .version reply

theorem served_ne_failed (call : Call) (reply : call.Reply) (error : ClientError) :
    call.served reply ≠ .failed error := by
  cases call <;> exact Outcome.noConfusion

/-- The outcome by which the caller is told what came of the call. -/
def outcome (start : UInt64) (call : Call) : Except CallFailure call.Reply → Outcome
  | .error failure => .failed (.ofCallFailure failure)
  | .ok reply =>
    if call.statedText reply ≠ "" then .failed (.ofServerMessage (call.statedText reply))
    else if ¬ Compatible start (call.named reply) then
      .failed (.startMismatch ⟨start, call.named reply⟩)
    else if call.isRefused reply then .failed (.conflict (Transaction.commitRefusal start))
    else call.served reply

/-- The outcome names exactly what came of the call of a transaction with this start timestamp: whether
an endpoint was selected, and what its node answered in time. -/
structure Verdict (call : Call) (start : UInt64) (selected : Bool)
    (answer : Except CallError call.Reply) (outcome : Outcome) : Prop where
  noEndpoints : outcome = .failed .noEndpoints ↔ selected = false
  transport (error : CallError) : outcome = .failed (.transport error) ↔
    selected = true ∧ answer = .error error ∧
      error.status ≠ .aborted ∧ error.status ≠ .failedPrecondition
  server (message : String) : outcome = .failed (.server message) ↔
    selected = true ∧ ∃ reply, answer = .ok reply ∧ call.statedText reply = message ∧
      message ≠ "" ∧ ¬ ClientError.abortedMarker.toList <:+: message.toList
  startMismatch (current received : UInt64) :
    outcome = .failed (.startMismatch ⟨current, received⟩) ↔
      selected = true ∧ ∃ reply, answer = .ok reply ∧ call.statedText reply = "" ∧
        current = start ∧ received = call.named reply ∧
        current ≠ 0 ∧ received ≠ 0 ∧ received ≠ current
  conflict (reason : String) : outcome = .failed (.conflict reason) ↔
    selected = true ∧
      ((∃ error, answer = .error error ∧ reason = error.text ∧
          (error.status = .aborted ∨ error.status = .failedPrecondition)) ∨
        (∃ reply, answer = .ok reply ∧ call.statedText reply = reason ∧
          ClientError.abortedMarker.toList <:+: reason.toList) ∨
        ∃ reply, answer = .ok reply ∧ call.statedText reply = "" ∧
          Compatible start (call.named reply) ∧ call.isRefused reply = true ∧
          reason = Transaction.commitRefusal start)
  otherwise :
    (outcome = .failed .noEndpoints ∨ (∃ error, outcome = .failed (.transport error)) ∨
      (∃ message, outcome = .failed (.server message)) ∨
      (∃ mismatch, outcome = .failed (.startMismatch mismatch)) ∨
      ∃ reason, outcome = .failed (.conflict reason)) ∨
    selected = true ∧ ∃ reply, answer = .ok reply ∧ outcome = call.served reply

theorem outcome_refused_of_conflict (call : Call) (start : UInt64) {error : CallError}
    (conflict : error.isConflict = true) :
    call.outcome start (.error (.refused error)) = .failed (.conflict error.text) := by
  rw [outcome, ClientError.ofCallFailure, ClientError.ofCallError, if_pos conflict]

theorem outcome_refused_of_not_conflict (call : Call) (start : UInt64) {error : CallError}
    (other : error.isConflict = false) :
    call.outcome start (.error (.refused error)) = .failed (.transport error) := by
  rw [outcome, ClientError.ofCallFailure, ClientError.ofCallError, other,
    if_neg Bool.false_ne_true]

variable {call : Call} {start : UInt64}

section Reply

variable {reply : call.Reply}

/-- An error that the reply states comes first. -/
theorem outcome_of_stated (stated : call.statedText reply ≠ "") :
    call.outcome start (.ok reply) = .failed (.ofServerMessage (call.statedText reply)) := by
  rw [outcome, if_pos stated]

/-- Then comes another start timestamp that the reply names. -/
theorem outcome_of_clash (unstated : call.statedText reply = "")
    (clashing : ¬ Compatible start (call.named reply)) :
    call.outcome start (.ok reply) = .failed (.startMismatch ⟨start, call.named reply⟩) := by
  rw [outcome, if_neg (not_not_intro unstated), if_pos clashing]

/-- Then comes the refusal of a commit. -/
theorem outcome_of_refused (unstated : call.statedText reply = "")
    (compatible : Compatible start (call.named reply)) (refused : call.isRefused reply = true) :
    call.outcome start (.ok reply) = .failed (.conflict (Transaction.commitRefusal start)) := by
  rw [outcome, if_neg (not_not_intro unstated), if_neg (not_not_intro compatible), if_pos refused]

/-- A reply with none of these is returned as it came. -/
theorem outcome_of_served (unstated : call.statedText reply = "")
    (compatible : Compatible start (call.named reply)) (unrefused : call.isRefused reply = false) :
    call.outcome start (.ok reply) = call.served reply := by
  rw [outcome, if_neg (not_not_intro unstated), if_neg (not_not_intro compatible), unrefused,
    if_neg Bool.false_ne_true]

end Reply

theorem verdict_of_unselected (answer : Except CallError call.Reply) :
    call.Verdict start false answer (call.outcome start (.error .noEndpoint)) := by
  constructor <;> simp [outcome, ClientError.ofCallFailure]

theorem verdict_of_error (error : CallError) :
    call.Verdict start true (.error error) (call.outcome start (.error (.refused error))) := by
  have sorted := @CallError.isConflict_iff error
  cases conflict : error.isConflict with
  | true =>
      rw [outcome_refused_of_conflict call start conflict]
      rw [conflict, eq_self, true_iff] at sorted
      constructor <;> grind
  | false =>
      rw [outcome_refused_of_not_conflict call start conflict]
      rw [conflict] at sorted
      constructor <;> grind

/-- A reply that states an error is told by that error, whatever else it says. -/
theorem verdict_of_stated {reply : call.Reply} (stated : call.statedText reply ≠ "") :
    call.Verdict start true (.ok reply) (call.outcome start (.ok reply)) := by
  rw [outcome_of_stated stated, ClientError.ofServerMessage]
  by_cases marked : ClientError.abortedMarker.toList <:+: (call.statedText reply).toList
  · rw [if_pos (Text.occurs_iff.2 marked)]
    constructor <;> grind
  · rw [if_neg fun occurs => marked (Text.occurs_iff.1 occurs)]
    constructor <;> grind

/-- A reply that states no error is told by its start timestamp, and then by whether it refuses the
commit. -/
theorem verdict_of_unstated {reply : call.Reply} (unstated : call.statedText reply = "") :
    call.Verdict start true (.ok reply) (call.outcome start (.ok reply)) := by
  have served := call.served_ne_failed reply
  have unmarked (message : String) (empty : message = "") :
      ¬ ClientError.abortedMarker.toList <:+: message.toList := by
    rw [empty]
    decide
  by_cases compatible : Compatible start (call.named reply)
  · cases refused : call.isRefused reply with
    | true =>
        rw [outcome_of_refused unstated compatible refused]
        constructor <;> grind [Compatible]
    | false =>
        rw [outcome_of_served unstated compatible refused]
        constructor <;> grind [Compatible]
  · rw [outcome_of_clash unstated compatible]
    constructor <;> grind [Compatible]

/-- The outcome of a call is the one that its verdict describes. -/
theorem verdict_outcome (call : Call) (start : UInt64) (selected : Bool)
    (answer : Except CallError call.Reply) :
    call.Verdict start selected answer (call.outcome start
      (if selected then answer.mapError .refused else .error .noEndpoint)) := by
  cases selected with
  | false => exact verdict_of_unselected answer
  | true =>
      cases answer with
      | error error => exact verdict_of_error error
      | ok reply =>
          by_cases unstated : call.statedText reply = ""
          · exact verdict_of_unstated unstated
          · exact verdict_of_stated unstated

variable {selected : Bool} {answer : Except CallError call.Reply} {first second : Outcome}

/-- Under a verdict the outcome is an error or the reply. -/
theorem Verdict.failed_or_served (verdict : call.Verdict start selected answer first) :
    (∃ error, first = .failed error) ∨ ∃ reply, answer = .ok reply ∧ first = call.served reply := by
  rcases verdict.otherwise with failed | ⟨-, served⟩
  · left
    rcases failed with same | ⟨error, same⟩ | ⟨message, same⟩ | ⟨mismatch, same⟩ | ⟨reason, same⟩
    all_goals exact ⟨_, same⟩
  · exact .inr served

/-- An outcome by which something went wrong is the only one with its verdict. -/
theorem Verdict.eq_of_failed (verdict : call.Verdict start selected answer first)
    (other : call.Verdict start selected answer second) {error : ClientError}
    (failed : first = .failed error) : second = first := by
  rcases verdict.otherwise with
    (same | ⟨_, same⟩ | ⟨_, same⟩ | ⟨⟨_, _⟩, same⟩ | ⟨_, same⟩) | ⟨-, reply, -, served⟩
  · rw [same, other.noEndpoints, ← verdict.noEndpoints, same]
  · rw [same, other.transport, ← verdict.transport, same]
  · rw [same, other.server, ← verdict.server, same]
  · rw [same, other.startMismatch, ← verdict.startMismatch, same]
  · rw [same, other.conflict, ← verdict.conflict, same]
  · exact absurd (served.symm.trans failed) (call.served_ne_failed reply error)

/-- What came of a call leaves no choice of the outcome. -/
theorem Verdict.unique (verdict : call.Verdict start selected answer first)
    (other : call.Verdict start selected answer second) : second = first := by
  rcases verdict.failed_or_served with ⟨error, failed⟩ | ⟨reply, answered, same⟩
  · exact verdict.eq_of_failed other failed
  rcases other.failed_or_served with ⟨error, failed⟩ | ⟨given, received, also⟩
  · exact (other.eq_of_failed verdict failed).symm
  · rw [answered, Except.ok.injEq] at received
    rw [same, also, received]

end Call

namespace Transaction

variable {transaction : Transaction} {operation : Operation} {call : Call}

/-- The error by which an operation is turned away before it does anything. -/
def guardError? (transaction : Transaction) : Operation → Option ClientError
  | .query _ _ | .commit => if transaction.isFinished then some .finished else none
  | .mutate _ =>
    if transaction.isFinished then some .finished
    else if transaction.mode.isReadOnly then some .readOnly
    else none
  | .discard => none
  | .bestEffort => if transaction.mode.isReadOnly then none else some .bestEffortRequiresReadOnly

/-- The call that an operation needs if its guard lets it through. A commit needs one only if there is
something to commit; what releases a transaction is not needed for an outcome. -/
def neededCall? (transaction : Transaction) : Operation → Option Call
  | .query text bindings => some (.query (transaction.request text bindings))
  | .mutate mutation => some (.mutate (transaction.stamp mutation))
  | .commit =>
    if transaction.mutated then some (.commitOrAbort transaction.context.toWire) else none
  | .discard | .bestEffort => none

/-- An operation that its guard turns away asks nothing and changes nothing. -/
theorem perform_of_guardError {error : ClientError}
    (refused : transaction.guardError? operation = some error) :
    transaction.perform operation = .done (.failed error, transaction) := by
  cases closed : transaction.isFinished with
  | true =>
      rw [perform_of_finished closed]
      cases operation <;> grind [guardError?, refusal]
  | false =>
      cases operation with
      | query | commit | discard => simp [guardError?, closed] at refused
      | mutate mutation =>
          have unwritable : transaction.mode.isReadOnly = true ∧ .readOnly = error := by
            simpa [guardError?, closed] using refused
          change (transaction.mutate mutation).bind _ = _
          rw [mutate, closed, if_neg Bool.false_ne_true, unwritable.1, if_pos rfl, ← unwritable.2]
          rfl
      | bestEffort =>
          have writable : transaction.mode.isReadOnly = false ∧
              .bestEffortRequiresReadOnly = error := by
            simpa [guardError?] using refused
          rw [perform, withBestEffort, writable.1, if_neg Bool.false_ne_true, ← writable.2]
          rfl

theorem perform_mutate_of_readOnly {mutation : Mutation} (active : transaction.isFinished = false)
    (readOnly : transaction.mode.isReadOnly = true) :
    transaction.perform (.mutate mutation) = .done (.failed .readOnly, transaction) := by
  apply perform_of_guardError
  rw [guardError?, active, if_neg Bool.false_ne_true, if_pos readOnly]

theorem perform_commit_of_unwritten (active : transaction.isFinished = false)
    (unwritten : transaction.mutated = false) :
    transaction.perform .commit = .done (.done, { transaction with phase := .settled }) := by
  change transaction.commit.bind _ = _
  rw [commit, active, if_neg Bool.false_ne_true, unwritten, if_neg Bool.false_ne_true]
  rfl

theorem active_of_guard (free : transaction.guardError? operation = none)
    (needed : transaction.neededCall? operation = some call) : transaction.isFinished = false := by
  cases operation <;> grind [guardError?, neededCall?]

theorem writable_of_guard {mutation : Mutation}
    (free : transaction.guardError? (.mutate mutation) = none) :
    transaction.mode.isReadOnly = false := by
  grind [guardError?]

/-- A reply that names another start timestamp gives the same outcome whatever releasing the
transaction shows. -/
theorem outcome_repudiate (transaction : Transaction) (named : UInt64) (surroundings : Surroundings) :
    ((transaction.repudiate named).run surroundings).1.1 =
      .failed (.startMismatch ⟨transaction.context.startTimestamp, named⟩) := by
  rw [repudiate, Plan.run_bind]
  rfl

/-- The outcome of a read says what came of its call. -/
theorem outcome_query {text : String} {bindings : TextMap} (active : transaction.isFinished = false)
    (surroundings : Surroundings) :
    ((transaction.perform (.query text bindings)).run surroundings).1.1 =
      Call.outcome transaction.context.startTimestamp
        (.query (transaction.request text bindings))
        (surroundings.exchange (.query (transaction.request text bindings))).1 := by
  rw [perform_query_of_active active, Plan.run_call]
  generalize surroundings.exchange _ = exchanged
  obtain ⟨answer, after⟩ := exchanged
  cases answer with
  | error failure => rfl
  | ok reply =>
      dsimp only
      by_cases compatible :
          Compatible transaction.context.startTimestamp reply.context.startTimestamp
      · rw [if_pos compatible]
        exact Eq.symm (Call.outcome_of_served rfl compatible rfl)
      · rw [if_neg compatible, outcome_repudiate]
        exact Eq.symm (Call.outcome_of_clash rfl compatible)

/-- The outcome of a write says what came of its call, whatever its cleanup does. -/
theorem outcome_mutate {mutation : Mutation} (active : transaction.isFinished = false)
    (writable : transaction.mode.isReadOnly = false) (surroundings : Surroundings) :
    ((transaction.perform (.mutate mutation)).run surroundings).1.1 =
      Call.outcome transaction.context.startTimestamp (.mutate (transaction.stamp mutation))
        (surroundings.exchange (.mutate (transaction.stamp mutation))).1 := by
  rw [perform_mutate_of_active active writable, Plan.run_call]
  generalize surroundings.exchange _ = exchanged
  obtain ⟨answer, after⟩ := exchanged
  cases answer with
  | error failure =>
      dsimp only [mutationError]
      rw [Plan.run_bind]
      rfl
  | ok reply =>
      dsimp only [mutationError]
      by_cases unstated : reply.error.getD "" = ""
      · rw [MutationReply.statedError_eq_none_iff.2 unstated]
        dsimp only
        by_cases compatible :
            Compatible transaction.context.startTimestamp reply.context.startTimestamp
        · rw [if_pos compatible]
          exact Eq.symm (Call.outcome_of_served unstated compatible rfl)
        · rw [if_neg compatible, outcome_repudiate]
          exact Eq.symm (Call.outcome_of_clash unstated compatible)
      · rw [MutationReply.statedError_of_ne unstated]
        dsimp only
        rw [Plan.run_bind]
        exact Eq.symm (Call.outcome_of_stated unstated)

/-- The outcome of a commit says what came of its call. -/
theorem outcome_commit (active : transaction.isFinished = false)
    (written : transaction.mutated = true) (surroundings : Surroundings) :
    ((transaction.perform .commit).run surroundings).1.1 =
      Call.outcome transaction.context.startTimestamp (.commitOrAbort transaction.context.toWire)
        (surroundings.exchange (.commitOrAbort transaction.context.toWire)).1 := by
  rw [perform_commit_of_active active written, Plan.run_call]
  generalize surroundings.exchange _ = exchanged
  obtain ⟨answer, after⟩ := exchanged
  cases answer with
  | error failure => rfl
  | ok reply =>
      dsimp only [commitOutcome]
      by_cases compatible : Compatible transaction.context.startTimestamp reply.startTimestamp
      · rw [TransactionContext.checkStart_of_compatible compatible]
        cases refused : reply.aborted with
        | true => exact Eq.symm (Call.outcome_of_refused rfl compatible refused)
        | false => exact Eq.symm (Call.outcome_of_served rfl compatible refused)
      · rw [TransactionContext.checkStart_of_not_compatible compatible]
        exact Eq.symm (Call.outcome_of_clash rfl compatible)

/-- The outcome of an operation that is let through is that of the one call that it needs. -/
theorem outcome_of_neededCall (free : transaction.guardError? operation = none)
    (needed : transaction.neededCall? operation = some call) (surroundings : Surroundings) :
    ((transaction.perform operation).run surroundings).1.1 =
      call.outcome transaction.context.startTimestamp (surroundings.exchange call).1 := by
  have active := active_of_guard free needed
  cases operation with
  | query text bindings =>
      cases needed
      exact outcome_query active surroundings
  | mutate mutation =>
      cases needed
      exact outcome_mutate active (writable_of_guard free) surroundings
  | commit =>
      cases written : transaction.mutated with
      | true =>
          rw [neededCall?, written, if_pos rfl] at needed
          cases needed
          exact outcome_commit active written surroundings
      | false =>
          rw [neededCall?, written, if_neg Bool.false_ne_true] at needed
          cases needed
  | discard => cases needed
  | bestEffort => cases needed

end Transaction

namespace Surroundings

/-- A call gets the answer of the endpoint that is selected for it, if one is. -/
theorem exchange_answer (surroundings : Surroundings) (call : Call) :
    (surroundings.exchange call).1 =
      let delivery := surroundings.traffic.inbox.headD {}
      if (surroundings.client.pool.pick delivery.draw).1.isSome then
        (delivery.answerWithin surroundings.client.pool.deadline call).mapError .refused
      else .error .noEndpoint := by
  have deadline := surroundings.client.pool.pick_deadline (surroundings.traffic.inbox.headD {}).draw
  simp only [exchange, Pool.exchange]
  split
  next pool unselected => rw [unselected, Option.isSome_none, if_neg Bool.false_ne_true]
  next position endpoint pool selected =>
    rw [selected] at deadline
    rw [selected, Option.isSome_some, if_pos rfl, deadline]

end Surroundings

namespace Client

/-- An endpoint is selected for a call with this delivery. -/
def selects (client : Client) (delivery : Delivery) : Bool :=
  (client.pool.pick delivery.draw).1.isSome

/-- What the node of the endpoint answers to the call, or the error of the deadline. -/
def hears (client : Client) (delivery : Delivery) (call : Call) : Except CallError call.Reply :=
  delivery.answerWithin client.pool.deadline call

end Client

namespace Session

/-- A step that is a read, a write, a commit, a change of the schema or a question for the version, and
that no guard turns away. -/
def Admits (session : Session) : Step → Prop
  | .operate name operation =>
    ∃ transaction, session.transaction? name = some transaction ∧
      transaction.guardError? operation = none ∧ operation ≠ .discard ∧ operation ≠ .bestEffort
  | .alter _ | .checkVersion => True
  | .clone _ | .begin _ _ _ _ | .drop _ _ | .close _ _ | .shutdown _ | .look => False

/-- The call of its own that the step makes, if no guard turns it away. -/
def neededCall? (session : Session) : Step → Option Call
  | .operate name operation =>
    (session.transaction? name).bind fun transaction => transaction.neededCall? operation
  | .alter change => some (.alter change)
  | .checkVersion => some .checkVersion
  | .clone _ | .begin _ _ _ _ | .drop _ _ | .close _ _ | .shutdown _ | .look => none

/-- The start timestamp that the transaction of the step holds; zero where there is none. -/
def startTimestamp (session : Session) : Step → UInt64
  | .operate name _ =>
    ((session.transaction? name).map fun transaction => transaction.context.startTimestamp).getD 0
  | .clone _ | .begin _ _ _ _ | .drop _ _ | .alter _ | .checkVersion | .close _ _ | .shutdown _
  | .look => 0

variable {session : Session} {inbox : List Delivery} {step : Step}

theorem outcome_operate {name : String} {transaction : Transaction}
    (known : session.transaction? name = some transaction) (operation : Operation) :
    (session.step inbox (.operate name operation)).1.outcome =
      ((transaction.perform operation).run (session.surroundings inbox)).1.1 := by
  rw [Session.step, operate, known]
  rfl

/-- The client itself passes on what comes of its single call. -/
theorem outcome_ask {message : Call} {outcome : message.Reply → Outcome} (start : UInt64)
    (served : ∀ reply, message.outcome start (.ok reply) = outcome reply) :
    (session.ask inbox (.call message fun answer => .done (answer.mapError .ofCallFailure))
      outcome).1.outcome =
      message.outcome start ((session.surroundings inbox).exchange message).1 := by
  rw [ask, Plan.run_call]
  generalize (session.surroundings inbox).exchange message = exchanged
  obtain ⟨answer, after⟩ := exchanged
  cases answer with
  | error failure => rfl
  | ok reply => exact (served reply).symm

/-- The outcome of a step that needs a call is that of the call. -/
theorem outcome_eq_of_neededCall (admitted : session.Admits step) {call : Call}
    (needed : session.neededCall? step = some call) :
    (session.step inbox step).1.outcome =
      call.outcome (session.startTimestamp step) ((session.surroundings inbox).exchange call).1 := by
  cases step with
  | operate name operation =>
      obtain ⟨transaction, known, free, -⟩ := admitted
      rw [neededCall?, known, Option.bind_some] at needed
      rw [outcome_operate known, startTimestamp, known]
      exact Transaction.outcome_of_neededCall free needed _
  | alter change =>
      cases needed
      apply outcome_ask
      intro reply
      exact Call.outcome_of_served rfl (.inr (.inl rfl)) rfl
  | checkVersion =>
      cases needed
      apply outcome_ask
      intro reply
      exact Call.outcome_of_served rfl (.inr (.inl rfl)) rfl
  | clone | begin | drop | close | shutdown | look => cases needed

/-- A step that is let through has the verdict of the call that it needs. -/
theorem verdict_of_neededCall (admitted : session.Admits step) {call : Call}
    (needed : session.neededCall? step = some call) :
    call.Verdict (session.startTimestamp step) (session.client.selects (inbox.headD {}))
      (session.client.hears (inbox.headD {}) call) (session.step inbox step).1.outcome := by
  rw [outcome_eq_of_neededCall admitted needed, Surroundings.exchange_answer]
  exact call.verdict_outcome _ _ _

/-- The only admitted step that needs no call is a commit of nothing. -/
theorem outcome_of_needless (admitted : session.Admits step)
    (needless : session.neededCall? step = none) :
    (session.step inbox step).1.outcome = .done ∧ (session.step inbox step).1.exchanges = [] := by
  cases step with
  | operate name operation =>
      obtain ⟨transaction, known, free, undiscarded, unset⟩ := admitted
      rw [neededCall?, known, Option.bind_some] at needless
      cases operation with
      | query | mutate => cases needless
      | discard => exact absurd rfl undiscarded
      | bestEffort => exact absurd rfl unset
      | commit =>
          have active : transaction.isFinished = false := by
            simpa [Transaction.guardError?] using free
          have unwritten : transaction.mutated = false := by
            simpa [Transaction.neededCall?] using needless
          rw [Session.step, operate, known]
          dsimp only
          rw [Transaction.perform_commit_of_unwritten active unwritten]
          exact ⟨rfl, rfl⟩
  | alter | checkVersion => cases needless
  | clone | begin | drop | close | shutdown | look => exact admitted.elim

/-- The outcome of a read, a write, a commit, a change of the schema or a question for the version tells
exactly what came of its own call, and depends on nothing else: neither on what the client holds nor
on how the abort ends that may follow the call. -/
theorem step_verdict (session : Session) (inbox : List Delivery) (step : Step)
    (admitted : session.Admits step) :
    let outcome := (session.step inbox step).1.outcome
    (session.neededCall? step = none →
        outcome = .done ∧ (session.step inbox step).1.exchanges = []) ∧
      (∀ call, session.neededCall? step = some call →
        call.Verdict (session.startTimestamp step) (session.client.selects (inbox.headD {}))
          (session.client.hears (inbox.headD {}) call) outcome) ∧
      ∀ (client : Client) (other : List Delivery),
        (∀ call, session.neededCall? step = some call →
          client.selects (other.headD {}) = session.client.selects (inbox.headD {}) ∧
          client.hears (other.headD {}) call = session.client.hears (inbox.headD {}) call) →
        ({ session with client }.step other step).1.outcome = outcome := by
  intro outcome
  refine ⟨outcome_of_needless admitted, fun call needed => verdict_of_neededCall admitted needed, ?_⟩
  intro client other same
  have alike : ({ session with client } : Session).Admits step := by
    cases step <;> exact admitted
  cases needed : session.neededCall? step with
  | none =>
      have needless : ({ session with client } : Session).neededCall? step = none := by
        cases step <;> exact needed
      rw [(outcome_of_needless alike needless).1]
      exact (outcome_of_needless admitted needed).1.symm
  | some call =>
      have needs : ({ session with client } : Session).neededCall? step = some call := by
        cases step <;> exact needed
      have start : ({ session with client } : Session).startTimestamp step =
          session.startTimestamp step := by
        cases step <;> rfl
      have verdict := @verdict_of_neededCall _ other _ alike _ needs
      rw [start, (same call needed).1, (same call needed).2] at verdict
      exact (verdict_of_neededCall admitted needed).unique verdict

/-- A commit whose reply names another start timestamp fails for that reason, also if the reply says
that the commit was refused. -/
theorem step_verdict_of_mismatched_commit :
    let written : Transaction :=
      { context := { startTimestamp := 7 }, mode := .readWrite, mutated := true }
    let session : Session :=
      { client := .ofPool (.ofEndpoints [{}])
        transactions := SortedMap.empty.insert "writer" written }
    let refusal : Delivery :=
      { answer := fun
          | .commitOrAbort _ => .ok { startTimestamp := 8, aborted := true }
          | call => .ok call.emptyReply }
    session.Admits (.operate "writer" .commit) ∧
      (session.step [refusal] (.operate "writer" .commit)).1.outcome =
        .failed (.startMismatch ⟨7, 8⟩) := by
  intro written session refusal
  have admitted : session.Admits (.operate "writer" .commit) :=
    ⟨written, by decide, rfl, Operation.noConfusion, Operation.noConfusion⟩
  have needed : session.neededCall? (.operate "writer" .commit) =
      some (.commitOrAbort written.context.toWire) := by decide
  have start : session.startTimestamp (.operate "writer" .commit) = 7 := by decide
  have verdict := (session.step_verdict [refusal] _ admitted).2.1 _ needed
  rw [start] at verdict
  refine ⟨admitted, (verdict.startMismatch 7 8).2 ⟨by decide, ?_⟩⟩
  refine ⟨{ startTimestamp := 8, aborted := true }, ?_⟩
  exact ⟨rfl, rfl, rfl, rfl, by decide, by decide, by decide⟩

end Session

end GraphClient
