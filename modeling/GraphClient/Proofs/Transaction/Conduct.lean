import GraphClient.Client.Session
import GraphClient.Proofs.Plan.Course

namespace GraphClient

/-- Two start timestamps are compatible if one of them is not assigned or both are the same. -/
def Compatible (held named : UInt64) : Prop :=
  held = 0 ∨ named = 0 ∨ named = held

instance (held named : UInt64) : Decidable (Compatible held named) :=
  inferInstanceAs (Decidable (_ ∨ _))

namespace TransactionContext

theorem clash_eq_false_iff {held named : UInt64} :
    clash held named = false ↔ Compatible held named := by
  simp only [clash, Compatible, Bool.and_eq_false_iff, bne_eq_false_iff_eq, or_assoc]
  exact or_congr_right (or_congr_right eq_comm)

theorem checkStart_of_compatible {context : TransactionContext} {named : UInt64}
    (compatible : Compatible context.startTimestamp named) : context.checkStart named = .ok () := by
  rw [checkStart, clash_eq_false_iff.2 compatible]
  rfl

/-- The check reports both start timestamps where they clash. -/
theorem checkStart_of_not_compatible {context : TransactionContext} {named : UInt64}
    (clashing : ¬ Compatible context.startTimestamp named) :
    context.checkStart named = .error ⟨context.startTimestamp, named⟩ := by
  have clashes : clash context.startTimestamp named = true := by
    rw [← Bool.not_eq_false, clash_eq_false_iff]
    exact clashing
  rw [checkStart, clashes]
  rfl

theorem absorb_of_compatible {context : TransactionContext} {reply : WireContext}
    (compatible : Compatible context.startTimestamp reply.startTimestamp) :
    context.absorb reply = .ok (context.extend reply) := by
  rw [absorb, checkStart_of_compatible compatible]
  rfl

/-- A reply that names another start timestamp is rejected. -/
theorem absorb_of_not_compatible {context : TransactionContext} {reply : WireContext}
    (clashing : ¬ Compatible context.startTimestamp reply.startTimestamp) :
    context.absorb reply = .error ⟨context.startTimestamp, reply.startTimestamp⟩ := by
  rw [absorb, checkStart_of_not_compatible clashing]
  rfl

end TransactionContext

namespace Transaction

/-- What discarding a transaction can amount to. -/
inductive Releases (transaction : Transaction) : List Event → Transaction → Prop where
  | finished (closed : transaction.isFinished = true) : transaction.Releases [] transaction
  | skipped (active : transaction.isFinished = false) (unwritten : transaction.mutated = false) :
      transaction.Releases [] { transaction with phase := .released .skipped }
  | aborted (active : transaction.isFinished = false) (written : transaction.mutated = true)
      {answer : Except CallFailure WireContext} {event : Event}
      (asked : (Call.commitOrAbort transaction.context.markAborted.toWire).Gets answer event) :
      transaction.Releases [event]
        { transaction with
          context := transaction.context.markAborted
          phase := .released (.ofAnswer answer) }

/-- What performing an operation can amount to. -/
inductive Performs (transaction : Transaction) :
    Operation → List Event → Outcome → Transaction → Prop where
  | queryFinished {text : String} {bindings : TextMap} (closed : transaction.isFinished = true) :
      transaction.Performs (.query text bindings) [] (.failed .finished) transaction
  | queryFailed {text : String} {bindings : TextMap} {failure : CallFailure} {event : Event}
      (active : transaction.isFinished = false)
      (asked : (Call.query (transaction.request text bindings)).Gets (.error failure) event) :
      transaction.Performs (.query text bindings) [event] (.failed (.ofCallFailure failure))
        transaction
  | queryAccepted {text : String} {bindings : TextMap} {reply : QueryReply} {event : Event}
      (active : transaction.isFinished = false)
      (asked : (Call.query (transaction.request text bindings)).Gets (.ok reply) event)
      (compatible :
        Compatible transaction.context.startTimestamp reply.context.startTimestamp) :
      transaction.Performs (.query text bindings)
        [event, .folded (transaction.context.extend reply.context).watermark] (.queried reply)
        { transaction with context := transaction.context.extend reply.context }
  | queryMismatched {text : String} {bindings : TextMap} {reply : QueryReply} {event : Event}
      {events : List Event} {after : Transaction} (active : transaction.isFinished = false)
      (asked : (Call.query (transaction.request text bindings)).Gets (.ok reply) event)
      (clashing :
        ¬ Compatible transaction.context.startTimestamp reply.context.startTimestamp)
      (released : transaction.Releases events after) :
      transaction.Performs (.query text bindings) (event :: events)
        (.failed (.startMismatch
          ⟨transaction.context.startTimestamp, reply.context.startTimestamp⟩)) after
  | mutateFinished {mutation : Mutation} (closed : transaction.isFinished = true) :
      transaction.Performs (.mutate mutation) [] (.failed .finished) transaction
  | mutateReadOnly {mutation : Mutation} (active : transaction.isFinished = false)
      (unwritable : transaction.mode.isReadOnly = true) :
      transaction.Performs (.mutate mutation) [] (.failed .readOnly) transaction
  | mutateFailed {mutation : Mutation} {answer : Except CallFailure MutationReply}
      {error : ClientError} {event : Event} {events : List Event} {after : Transaction}
      (active : transaction.isFinished = false) (writable : transaction.mode.isReadOnly = false)
      (asked : (Call.mutate (transaction.stamp mutation)).Gets answer event)
      (refused : mutationError answer = .error error)
      (released : transaction.Releases events after) :
      transaction.Performs (.mutate mutation) (event :: events) (.failed error) after
  | mutateAccepted {mutation : Mutation} {reply : MutationReply} {event : Event}
      (active : transaction.isFinished = false) (writable : transaction.mode.isReadOnly = false)
      (asked : (Call.mutate (transaction.stamp mutation)).Gets (.ok reply) event)
      (applied : reply.statedError = none)
      (compatible :
        Compatible transaction.context.startTimestamp reply.context.startTimestamp) :
      transaction.Performs (.mutate mutation)
        [event, .folded (transaction.context.extend reply.context).watermark] (.mutated reply)
        { transaction with
          context := transaction.context.extend reply.context
          mutated := true
          phase := if mutation.commitNow then .settled else transaction.phase }
  | mutateMismatched {mutation : Mutation} {reply : MutationReply} {event : Event}
      {events : List Event} {after : Transaction} (active : transaction.isFinished = false)
      (writable : transaction.mode.isReadOnly = false)
      (asked : (Call.mutate (transaction.stamp mutation)).Gets (.ok reply) event)
      (applied : reply.statedError = none)
      (clashing :
        ¬ Compatible transaction.context.startTimestamp reply.context.startTimestamp)
      (released : { transaction with mutated := true }.Releases events after) :
      transaction.Performs (.mutate mutation) (event :: events)
        (.failed (.startMismatch
          ⟨transaction.context.startTimestamp, reply.context.startTimestamp⟩)) after
  | commitFinished (closed : transaction.isFinished = true) :
      transaction.Performs .commit [] (.failed .finished) transaction
  | commitUnwritten (active : transaction.isFinished = false)
      (unwritten : transaction.mutated = false) :
      transaction.Performs .commit [] .done { transaction with phase := .settled }
  | commitFailed {answer : Except CallFailure WireContext} {error : ClientError} {event : Event}
      (active : transaction.isFinished = false) (written : transaction.mutated = true)
      (asked : (Call.commitOrAbort transaction.context.toWire).Gets answer event)
      (refused : transaction.commitOutcome answer = .error error) :
      transaction.Performs .commit [event] (.failed error) { transaction with phase := .settled }
  | commitConfirmed {reply : WireContext} {event : Event}
      (active : transaction.isFinished = false) (written : transaction.mutated = true)
      (asked : (Call.commitOrAbort transaction.context.toWire).Gets (.ok reply) event)
      (compatible : Compatible transaction.context.startTimestamp reply.startTimestamp)
      (confirmed : reply.aborted = false) :
      transaction.Performs .commit [event, .folded reply.watermark] .done
        { transaction with phase := .settled }
  | discarded {events : List Event} {after : Transaction}
      (released : transaction.Releases events after) :
      transaction.Performs .discard events .done after
  | bestEffortSet (unwritable : transaction.mode.isReadOnly = true) :
      transaction.Performs .bestEffort [] .done { transaction with mode := .bestEffort }
  | bestEffortRefused (writable : transaction.mode.isReadOnly = false) :
      transaction.Performs .bestEffort [] (.failed .bestEffortRequiresReadOnly) transaction

variable {transaction after : Transaction} {events : List Event}

/-- Whatever a discard yields releases the transaction. -/
theorem releases_of_yields (yields : transaction.discard.Yields events after) :
    transaction.Releases events after := by
  unfold discard at yields
  cases closed : transaction.isFinished with
  | true =>
      rw [closed, if_pos rfl] at yields
      obtain ⟨rfl, rfl⟩ := Plan.yields_done.1 yields
      exact .finished closed
  | false =>
      rw [closed, if_neg Bool.false_ne_true] at yields
      cases written : transaction.mutated with
      | true =>
          rw [written, if_pos rfl] at yields
          obtain ⟨answer, event, rest, rfl, asked, onward⟩ := Plan.yields_call.1 yields
          obtain ⟨rfl, rfl⟩ := Plan.yields_done.1 onward
          rw [← written]
          exact .aborted closed written asked
      | false =>
          rw [written, if_neg Bool.false_ne_true] at yields
          obtain ⟨rfl, rfl⟩ := Plan.yields_done.1 yields
          rw [← written]
          exact .skipped closed written

/-- What becomes of a transaction whose reply names another start timestamp. -/
def repudiate (transaction : Transaction) (named : UInt64) : Plan (Outcome × Transaction) :=
  transaction.discard.bind fun released =>
    .done (.failed (.startMismatch ⟨transaction.context.startTimestamp, named⟩), released)

/-- A reply whose start timestamp is compatible is taken over and passed on to the sink. -/
theorem accept_of_compatible (transaction : Transaction) {reply : WireContext}
    (compatible : Compatible transaction.context.startTimestamp reply.startTimestamp) :
    transaction.accept reply = .fold (transaction.context.extend reply).watermark
      (.done (.ok (), { transaction with context := transaction.context.extend reply })) := by
  rw [accept, TransactionContext.absorb_of_compatible compatible]

/-- A reply that names another start timestamp makes the transaction discard itself. -/
theorem accept_of_not_compatible (transaction : Transaction) {reply : WireContext}
    (clashing : ¬ Compatible transaction.context.startTimestamp reply.startTimestamp) :
    transaction.accept reply = transaction.discard.bind fun released =>
      .done (.error (.startMismatch
        ⟨transaction.context.startTimestamp, reply.startTimestamp⟩), released) := by
  rw [accept, TransactionContext.absorb_of_not_compatible clashing]
  rfl

/-- A read of an active transaction calls; a reply that is not accepted makes the transaction
discard itself. -/
theorem perform_query_of_active {text : String} {bindings : TextMap}
    (active : transaction.isFinished = false) :
    transaction.perform (.query text bindings) =
      .call (.query (transaction.request text bindings)) fun
        | .error failure => .done (.failed (.ofCallFailure failure), transaction)
        | .ok reply =>
          if Compatible transaction.context.startTimestamp reply.context.startTimestamp then
            .fold (transaction.context.extend reply.context).watermark
              (.done (.queried reply,
                { transaction with context := transaction.context.extend reply.context }))
          else transaction.repudiate reply.context.startTimestamp := by
  change (transaction.query text bindings).bind _ = _
  rw [query, active, if_neg Bool.false_ne_true, Plan.bind]
  congr 1
  funext answer
  cases answer with
  | error failure => rfl
  | ok reply =>
      change ((transaction.accept reply.context).bind _).bind _ = _
      dsimp only
      by_cases compatible :
          Compatible transaction.context.startTimestamp reply.context.startTimestamp
      · rw [if_pos compatible, accept_of_compatible transaction compatible]
        rfl
      · rw [if_neg compatible, accept_of_not_compatible transaction compatible, Plan.bind_assoc,
          Plan.bind_assoc]
        rfl

/-- A write calls if the transaction is active and may write; an answer that is not accepted makes
the transaction discard itself. -/
theorem perform_mutate_of_active {mutation : Mutation}
    (active : transaction.isFinished = false) (writable : transaction.mode.isReadOnly = false) :
    transaction.perform (.mutate mutation) =
      .call (.mutate (transaction.stamp mutation)) fun answer =>
        match mutationError answer with
        | .error error => transaction.discard.bind fun released => .done (.failed error, released)
        | .ok reply =>
          if Compatible transaction.context.startTimestamp reply.context.startTimestamp then
            .fold (transaction.context.extend reply.context).watermark
              (.done (.mutated reply,
                { transaction with
                  context := transaction.context.extend reply.context
                  mutated := true
                  phase := if mutation.commitNow then .settled else transaction.phase }))
          else { transaction with mutated := true }.repudiate reply.context.startTimestamp := by
  change (transaction.mutate mutation).bind _ = _
  rw [mutate, active, writable, if_neg Bool.false_ne_true, if_neg Bool.false_ne_true, Plan.bind]
  congr 1
  funext answer
  cases mutationError answer with
  | error error =>
      change (transaction.discard.bind _).bind _ = _
      rw [Plan.bind_assoc]
      rfl
  | ok reply =>
      change (({ transaction with mutated := true }.accept reply.context).bind _).bind _ = _
      dsimp only
      by_cases compatible :
          Compatible transaction.context.startTimestamp reply.context.startTimestamp
      · rw [if_pos compatible, accept_of_compatible { transaction with mutated := true } compatible]
        cases mutation.commitNow <;> rfl
      · rw [if_neg compatible, accept_of_not_compatible { transaction with mutated := true } compatible,
          Plan.bind_assoc, Plan.bind_assoc]
        rfl

/-- A commit of what has been written calls, and settles the transaction whatever the answer is. -/
theorem perform_commit_of_active (active : transaction.isFinished = false)
    (written : transaction.mutated = true) :
    transaction.perform .commit =
      .call (.commitOrAbort transaction.context.toWire) fun answer =>
        match transaction.commitOutcome answer with
        | .error error => .done (.failed error, { transaction with phase := .settled })
        | .ok watermark =>
          .fold watermark (.done (.done, { transaction with phase := .settled })) := by
  change transaction.commit.bind _ = _
  rw [commit, active, written, if_neg Bool.false_ne_true, if_pos rfl, Plan.bind]
  congr 1
  funext answer
  rw [← written]
  cases transaction.commitOutcome answer <;> rfl

/-- A plan that discards first releases the transaction and nothing more. -/
theorem releases_of_yields_bind {Result : Type} {final : Result} {finish : Transaction → Result}
    (yields : (transaction.discard.bind fun released => .done (finish released)).Yields
      events final) :
    ∃ after, transaction.Releases events after ∧ final = finish after := by
  obtain ⟨before, rest, released, rfl, discarded, ended⟩ := Plan.yields_bind.1 yields
  obtain ⟨rfl, rfl⟩ := Plan.yields_done.1 ended
  rw [List.append_nil]
  exact ⟨released, releases_of_yields discarded, rfl⟩

section

variable {operation : Operation} {outcome : Outcome}

/-- What an operation gives on a finished transaction. -/
def refusal (transaction : Transaction) : Operation → Outcome × Transaction
  | .query _ _ | .mutate _ | .commit => (.failed .finished, transaction)
  | .discard => (.done, transaction)
  | .bestEffort =>
    if transaction.mode.isReadOnly then (.done, { transaction with mode := .bestEffort })
    else (.failed .bestEffortRequiresReadOnly, transaction)

/-- A finished transaction has no plans. -/
theorem perform_of_finished (closed : transaction.isFinished = true) (operation : Operation) :
    transaction.perform operation = .done (transaction.refusal operation) := by
  cases operation with
  | query text bindings =>
      change (transaction.query text bindings).bind _ = _
      rw [query, closed, if_pos rfl]
      rfl
  | mutate mutation =>
      change (transaction.mutate mutation).bind _ = _
      rw [mutate, closed, if_pos rfl]
      rfl
  | commit =>
      change transaction.commit.bind _ = _
      rw [commit, closed, if_pos rfl]
      rfl
  | discard =>
      change transaction.discard.bind _ = _
      rw [discard, closed, if_pos rfl]
      rfl
  | bestEffort =>
      unfold perform withBestEffort refusal
      cases transaction.mode.isReadOnly <;> rfl

/-- Asking for best effort shows no event, and changes the mode or is refused. -/
theorem performs_bestEffort_of_yields
    (yields : (transaction.perform .bestEffort).Yields events (outcome, after)) :
    transaction.Performs .bestEffort events outcome after := by
  unfold perform withBestEffort at yields
  cases unwritable : transaction.mode.isReadOnly with
  | true =>
      rw [unwritable, if_pos rfl] at yields
      obtain ⟨rfl, same⟩ := Plan.yields_done.1 yields
      cases same
      exact .bestEffortSet unwritable
  | false =>
      rw [unwritable, if_neg Bool.false_ne_true] at yields
      obtain ⟨rfl, same⟩ := Plan.yields_done.1 yields
      cases same
      exact .bestEffortRefused unwritable

/-- The operations on a finished transaction are among those listed. -/
theorem performs_of_finished (closed : transaction.isFinished = true)
    (yields : (transaction.perform operation).Yields events (outcome, after)) :
    transaction.Performs operation events outcome after := by
  have course := yields
  rw [perform_of_finished closed] at yields
  obtain ⟨rfl, same⟩ := Plan.yields_done.1 yields
  cases operation with
  | query =>
      cases same
      exact .queryFinished closed
  | mutate =>
      cases same
      exact .mutateFinished closed
  | commit =>
      cases same
      exact .commitFinished closed
  | discard =>
      cases same
      exact .discarded (.finished closed)
  | bestEffort => exact performs_bestEffort_of_yields course

/-- All that a read of an active transaction can amount to. -/
theorem performs_query_of_active {text : String} {bindings : TextMap}
    (active : transaction.isFinished = false)
    (yields : (transaction.perform (.query text bindings)).Yields events (outcome, after)) :
    transaction.Performs (.query text bindings) events outcome after := by
  rw [perform_query_of_active active] at yields
  obtain ⟨answer, event, rest, rfl, asked, onward⟩ := Plan.yields_call.1 yields
  cases answer with
  | error failure =>
      obtain ⟨rfl, same⟩ := Plan.yields_done.1 onward
      cases same
      exact .queryFailed active asked
  | ok reply =>
      dsimp only at onward
      split at onward
      next compatible =>
        obtain ⟨later, rfl, ended⟩ := Plan.yields_fold.1 onward
        obtain ⟨rfl, same⟩ := Plan.yields_done.1 ended
        cases same
        exact .queryAccepted active asked compatible
      next clashing =>
        obtain ⟨released, conduct, same⟩ := releases_of_yields_bind onward
        cases same
        exact .queryMismatched active asked clashing conduct

/-- A write has been applied exactly if its reply states no error. -/
theorem mutationError_eq_ok_iff {answer : Except CallFailure MutationReply}
    {reply : MutationReply} :
    mutationError answer = .ok reply ↔ answer = .ok reply ∧ reply.statedError = none := by
  cases answer with
  | error failure => simp [mutationError]
  | ok given =>
      cases stated : given.statedError with
      | none =>
          simp only [mutationError, stated, Except.ok.injEq]
          exact ⟨fun same => ⟨same, same ▸ stated⟩, And.left⟩
      | some message =>
          simp only [mutationError, stated, reduceCtorEq, Except.ok.injEq, false_iff]
          rintro ⟨rfl, unstated⟩
          rw [stated] at unstated
          cases unstated

/-- All that a write of an active transaction can amount to. -/
theorem performs_mutate_of_active {mutation : Mutation} (active : transaction.isFinished = false)
    (yields : (transaction.perform (.mutate mutation)).Yields events (outcome, after)) :
    transaction.Performs (.mutate mutation) events outcome after := by
  cases unwritable : transaction.mode.isReadOnly with
  | true =>
      change ((transaction.mutate mutation).bind _).Yields _ _ at yields
      rw [mutate, active, if_neg Bool.false_ne_true, unwritable, if_pos rfl] at yields
      obtain ⟨rfl, same⟩ := Plan.yields_done.1 yields
      cases same
      exact .mutateReadOnly active unwritable
  | false =>
      rw [perform_mutate_of_active active unwritable] at yields
      obtain ⟨answer, event, rest, rfl, asked, onward⟩ := Plan.yields_call.1 yields
      cases sorted : mutationError answer with
      | error error =>
          rw [sorted] at onward
          obtain ⟨released, conduct, same⟩ := releases_of_yields_bind onward
          cases same
          exact .mutateFailed active unwritable asked sorted conduct
      | ok reply =>
          rw [sorted] at onward
          obtain ⟨rfl, applied⟩ := mutationError_eq_ok_iff.1 sorted
          dsimp only at onward
          split at onward
          next compatible =>
            obtain ⟨later, rfl, ended⟩ := Plan.yields_fold.1 onward
            obtain ⟨rfl, same⟩ := Plan.yields_done.1 ended
            cases same
            exact .mutateAccepted active unwritable asked applied compatible
          next clashing =>
            obtain ⟨released, conduct, same⟩ := releases_of_yields_bind onward
            cases same
            exact .mutateMismatched active unwritable asked applied clashing conduct

/-- A commit is confirmed exactly by a reply that names no other start timestamp and is not aborted.
-/
theorem commitOutcome_eq_ok_iff {answer : Except CallFailure WireContext}
    {watermark : Watermark} :
    transaction.commitOutcome answer = .ok watermark ↔
      ∃ reply, answer = .ok reply ∧
        Compatible transaction.context.startTimestamp reply.startTimestamp ∧
        reply.aborted = false ∧ watermark = reply.watermark := by
  cases answer with
  | error failure => simp [commitOutcome]
  | ok reply =>
      by_cases compatible : Compatible transaction.context.startTimestamp reply.startTimestamp
      · cases refused : reply.aborted with
        | true =>
            simp [commitOutcome, TransactionContext.checkStart_of_compatible compatible, refused]
        | false =>
            simp only [commitOutcome, TransactionContext.checkStart_of_compatible compatible, refused,
              Bool.false_eq_true, if_false, Except.ok.injEq]
            constructor
            · rintro rfl
              exact ⟨reply, rfl, compatible, refused, rfl⟩
            · rintro ⟨given, rfl, _, _, rfl⟩
              rfl
      · simp [commitOutcome, TransactionContext.checkStart_of_not_compatible compatible, compatible]

/-- All that a commit of an active transaction can amount to. -/
theorem performs_commit_of_active (active : transaction.isFinished = false)
    (yields : (transaction.perform .commit).Yields events (outcome, after)) :
    transaction.Performs .commit events outcome after := by
  cases written : transaction.mutated with
  | false =>
      change (transaction.commit.bind _).Yields _ _ at yields
      rw [commit, active, if_neg Bool.false_ne_true, written, if_neg Bool.false_ne_true] at yields
      obtain ⟨rfl, same⟩ := Plan.yields_done.1 yields
      rw [← written] at same
      cases same
      exact .commitUnwritten active written
  | true =>
      rw [perform_commit_of_active active written] at yields
      obtain ⟨answer, event, rest, rfl, asked, onward⟩ := Plan.yields_call.1 yields
      cases verdict : transaction.commitOutcome answer with
      | error error =>
          rw [verdict] at onward
          obtain ⟨rfl, same⟩ := Plan.yields_done.1 onward
          cases same
          exact .commitFailed active written asked verdict
      | ok watermark =>
          rw [verdict] at onward
          obtain ⟨reply, rfl, compatible, confirmed, rfl⟩ := commitOutcome_eq_ok_iff.1 verdict
          obtain ⟨later, rfl, ended⟩ := Plan.yields_fold.1 onward
          obtain ⟨rfl, same⟩ := Plan.yields_done.1 ended
          cases same
          exact .commitConfirmed active written asked compatible confirmed

/-- Whatever course an operation takes, it is one of those listed. -/
theorem performs_of_yields
    (yields : (transaction.perform operation).Yields events (outcome, after)) :
    transaction.Performs operation events outcome after := by
  cases active : transaction.isFinished with
  | true => exact performs_of_finished active yields
  | false =>
      cases operation with
      | query => exact performs_query_of_active active yields
      | mutate => exact performs_mutate_of_active active yields
      | commit => exact performs_commit_of_active active yields
      | discard =>
          change (transaction.discard.bind fun released => .done (Outcome.done, released)).Yields
            events (outcome, after) at yields
          obtain ⟨released, conduct, same⟩ := releases_of_yields_bind yields
          cases same
          exact .discarded conduct
      | bestEffort => exact performs_bestEffort_of_yields yields

end

end Transaction

/-- Letting a transaction go does nothing or releases it. -/
theorem Session.dropPlan_run (flavour : Flavour) (mayNotBlock : Bool) (transaction : Transaction)
    (surroundings : Surroundings) :
    ∃ events, (events = [] ∨ ∃ after, transaction.Releases events after) ∧
      surroundings.After events
        ((dropPlan flavour mayNotBlock transaction).run surroundings).2 := by
  cases flavour with
  | asynchronous => exact ⟨[], .inl rfl, surroundings.after_nil⟩
  | blocking =>
      cases mayNotBlock with
      | true => exact ⟨[], .inl rfl, surroundings.after_nil⟩
      | false =>
          obtain ⟨events, yields, shown⟩ := transaction.discard.run_yields surroundings
          exact ⟨events, .inr ⟨_, Transaction.releases_of_yields yields⟩, shown⟩

end GraphClient
