import GraphClient.Proofs.Transaction.Cleanup

namespace GraphClient

/-- The call asks the server to forget a transaction. -/
def Call.isAbort : Call → Bool
  | commitOrAbort context => context.aborted
  | query _ | mutate _ | alter _ | checkVersion => false

namespace Exchange

/-- One of the exchanges is an abort that was sent. -/
def Aborts (exchanges : List Exchange) : Prop :=
  ∃ exchange ∈ exchanges, exchange.call.isAbort = true

instance (exchanges : List Exchange) : Decidable (Aborts exchanges) :=
  inferInstanceAs (Decidable (∃ exchange ∈ exchanges, exchange.call.isAbort = true))

@[simp] theorem not_aborts_nil : ¬ Aborts [] := by
  rintro ⟨exchange, member, -⟩
  cases member

@[simp] theorem aborts_append {first second : List Exchange} :
    Aborts (first ++ second) ↔ Aborts first ∨ Aborts second := by
  simp only [Aborts, List.mem_append, or_and_right, exists_or]

end Exchange

open Exchange

/-- A call that is no abort shows none. -/
theorem Call.Gets.not_aborts {call : Call} {answer : Except CallFailure call.Reply} {event : Event}
    (got : call.Gets answer event) (other : call.isAbort = false) :
    ¬ Aborts (Event.exchanges [event]) := by
  rintro ⟨exchange, member, aborts⟩
  rw [got.call_eq member, other] at aborts
  cases aborts

namespace Transaction

variable {transaction after : Transaction} {operation : Operation} {outcome : Outcome}
  {events : List Event} {past : List Exchange}

/-- The record of the cleanup tells whether there is an abort among these exchanges. -/
structure Reports (transaction : Transaction) (past : List Exchange) : Prop where
  unrecorded : transaction.lastCleanup = none → ¬ Aborts past
  recorded : ∀ cleanup, transaction.lastCleanup = some cleanup →
    (Aborts past ↔ cleanup.wasAttempted = true ∧ cleanup ≠ .failed .noEndpoints)

/-- An unreleased transaction has no record, and so no abort to tell of. -/
theorem reports_of_silent (silent : ¬ Aborts past) (unreleased : transaction.lastCleanup = none) :
    transaction.Reports past where
  unrecorded _ := silent
  recorded cleanup recorded := by
    rw [unreleased] at recorded
    cases recorded

/-- As long as the transaction is active no abort has been sent. -/
theorem Reports.silent (reports : transaction.Reports past)
    (active : transaction.isFinished = false) : ¬ Aborts past :=
  reports.unrecorded (lastCleanup_of_active active)

/-- A transaction with the same record reports the same. -/
theorem Reports.congr (reports : transaction.Reports past)
    (same : after.lastCleanup = transaction.lastCleanup) : after.Reports past := by
  constructor
  · rw [same]
    exact reports.unrecorded
  · rw [same]
    exact reports.recorded

/-- What is sent to release a transaction is an abort. -/
theorem Releases.isAbort_of_mem (released : transaction.Releases events after)
    {exchange : Exchange} (member : exchange ∈ Event.exchanges events) :
    exchange.isSignal = true ∧ exchange.call.isAbort = true := by
  obtain ⟨before, rest, split⟩ := List.append_of_mem member
  obtain ⟨-, -, -, carried⟩ := released.aborts split
  exact ⟨Exchange.isSignal_iff.2 ⟨_, carried⟩, by rw [carried]; rfl⟩

/-- A release of an active transaction sends the abort that its record tells of. -/
theorem Releases.reports (released : transaction.Releases events after)
    (active : transaction.isFinished = false) (silent : ¬ Aborts past) :
    after.Reports (past ++ Event.exchanges events) := by
  obtain ⟨cleanup, recorded, -, sent⟩ := released.recorded active
  have aborts : Aborts (past ++ Event.exchanges events) ↔
      cleanup.wasAttempted = true ∧ cleanup ≠ .failed .noEndpoints := by
    rw [aborts_append, or_iff_right silent, ← sent]
    constructor
    · rintro ⟨exchange, member, -⟩
      exact ⟨exchange, member, (released.isAbort_of_mem member).1⟩
    · rintro ⟨exchange, member, -⟩
      exact ⟨exchange, member, (released.isAbort_of_mem member).2⟩
  constructor
  · intro missing
    rw [recorded] at missing
    cases missing
  · intro found same
    rw [recorded, Option.some.injEq] at same
    rw [← same]
    exact aborts

/-- A transaction that is released after a read or a write reports the abort and nothing else. -/
theorem Releases.reports_after_call {call : Call} {answer : Except CallFailure call.Reply}
    {event : Event} (released : transaction.Releases events after)
    (active : transaction.isFinished = false) (silent : ¬ Aborts past)
    (asked : call.Gets answer event) (other : call.isAbort = false) :
    after.Reports (past ++ Event.exchanges (event :: events)) := by
  have still : ¬ Aborts (past ++ Event.exchanges [event]) := by
    rw [aborts_append, not_or]
    exact ⟨silent, asked.not_aborts other⟩
  have split : Event.exchanges (event :: events) =
      Event.exchanges [event] ++ Event.exchanges events := Event.exchanges_append [event] events
  rw [split, ← List.append_assoc]
  exact released.reports active still

/-- A call after which the transaction has no record of a cleanup. -/
theorem reports_of_call {call : Call} {answer : Except CallFailure call.Reply} {event : Event}
    (asked : call.Gets answer event) (other : call.isAbort = false) (silent : ¬ Aborts past)
    (unreleased : after.lastCleanup = none) : after.Reports (past ++ Event.exchanges [event]) := by
  refine reports_of_silent ?_ unreleased
  rw [aborts_append, not_or]
  exact ⟨silent, asked.not_aborts other⟩

/-- An operation keeps the record true of all that has been sent. -/
theorem Performs.reports (performed : transaction.Performs operation events outcome after)
    (unmarked : transaction.isFinished = false → transaction.context.aborted = false)
    (reports : transaction.Reports past) : after.Reports (past ++ Event.exchanges events) := by
  cases performed with
  | queryFinished | mutateFinished | mutateReadOnly | commitFinished | bestEffortRefused =>
      rw [Event.exchanges_nil, List.append_nil]
      exact reports
  | bestEffortSet =>
      rw [Event.exchanges_nil, List.append_nil]
      exact reports.congr rfl
  | queryFailed active asked =>
      exact reports_of_call asked rfl (reports.silent active) (lastCleanup_of_active active)
  | queryAccepted active asked =>
      rw [Event.exchanges_pair_folded]
      exact reports_of_call asked rfl (reports.silent active) (lastCleanup_of_active active)
  | queryMismatched active asked clashing released =>
      exact released.reports_after_call active (reports.silent active) asked rfl
  | mutateFailed active writable asked refused released =>
      exact released.reports_after_call active (reports.silent active) asked rfl
  | @mutateAccepted mutation reply event active writable asked applied compatible =>
      rw [Event.exchanges_pair_folded]
      refine reports_of_call asked rfl (reports.silent active) ?_
      cases now : mutation.commitNow with
      | true => rfl
      | false => exact lastCleanup_of_active active
  | mutateMismatched active writable asked applied clashing released =>
      exact released.reports_after_call active (reports.silent active) asked rfl
  | commitUnwritten active =>
      rw [Event.exchanges_nil, List.append_nil]
      exact reports_of_silent (reports.silent active) rfl
  | commitFailed active written asked =>
      exact reports_of_call asked (unmarked active) (reports.silent active) rfl
  | commitConfirmed active written asked =>
      rw [Event.exchanges_pair_folded]
      exact reports_of_call asked (unmarked active) (reports.silent active) rfl
  | discarded released =>
      cases closed : transaction.isFinished with
      | false => exact released.reports closed (reports.silent closed)
      | true =>
          cases released with
          | finished =>
              rw [Event.exchanges_nil, List.append_nil]
              exact reports
          | skipped active | aborted active => exact absurd (active.symm.trans closed) (by simp)

section Life

variable {mode : Mode} {seed : Watermark} {endpoints : List Endpoint} {occasions : List Occasion}

/-- At all times the record tells whether an abort has been sent. -/
theorem through_reports (mode : Mode) (seed : Watermark) (occasions : List Occasion) :
    ((start mode seed).through occasions).Reports
      (Turn.sent ((start mode seed).life occasions)) := by
  have both := through_induction
    (fun transaction turns => transaction.Testifies ∧ transaction.Reports (Turn.sent turns))
    (fun transaction turns occasion ⟨testifies, reports⟩ => by
      obtain ⟨events, performed, shown, -⟩ := transaction.turn_performs occasion
      refine ⟨performed.testifies testifies, ?_⟩
      rw [Turn.sent_append, Turn.sent_cons, Turn.sent_nil, List.append_nil, shown]
      exact performed.reports
        (fun active => testifies.unmarked (lastCleanup_of_active active)) reports)
    ⟨testifies_of_unreleased rfl rfl, @reports_of_silent (start mode seed) [] not_aborts_nil rfl⟩
    occasions
  exact both.2

theorem through_stands (mode : Mode) (seed : Watermark) (occasions : List Occasion) :
    Stands seed ((start mode seed).through occasions)
      (Turn.sent ((start mode seed).life occasions)) := by
  refine through_induction (fun transaction turns => Stands seed transaction (Turn.sent turns)) ?_
    (start_stands mode seed) occasions
  intro transaction turns occasion stands
  rw [Turn.sent_append, Turn.sent_cons, Turn.sent_nil, List.append_nil]
  exact turn_stands stands occasion

/-- Where every call is sent, a transaction is not released for want of an endpoint. -/
theorem Releases.served (released : transaction.Releases events after)
    (sent : ∀ event ∈ events, ¬ event.IsUnsent)
    (served : transaction.lastCleanup ≠ some (.failed .noEndpoints)) :
    after.lastCleanup ≠ some (.failed .noEndpoints) := by
  cases active : transaction.isFinished with
  | true =>
      cases released with
      | finished => exact served
      | skipped open_ | aborted open_ => exact absurd (open_.symm.trans active) (by simp)
  | false =>
      intro unserved
      cases released with
      | finished closed => exact absurd (closed.symm.trans active) (by simp)
      | skipped => cases unserved
      | @aborted _ _ answer event asked =>
          have missing : Cleanup.ofAnswer answer = .failed .noEndpoints := Option.some.inj unserved
          cases answer with
          | ok reply => cases missing
          | error failure =>
              rcases asked.of_error with ⟨-, rfl⟩ | ⟨position, endpoint, error, rfl, -⟩
              · exact sent _ List.mem_cons_self ⟨_, rfl⟩
              · exact ClientError.ofCallError_ne_noEndpoints error (Cleanup.failed.inj missing)

/-- If all calls are sent, no cleanup fails for want of an endpoint. -/
theorem Performs.served (performed : transaction.Performs operation events outcome after)
    (sent : ∀ event ∈ events, ¬ event.IsUnsent)
    (served : transaction.lastCleanup ≠ some (.failed .noEndpoints)) :
    after.lastCleanup ≠ some (.failed .noEndpoints) := by
  cases performed with
  | queryFinished | queryFailed | queryAccepted | mutateFinished | mutateReadOnly
  | commitFinished | bestEffortSet | bestEffortRefused => exact served
  | queryMismatched active asked clashing released =>
      exact released.served (List.forall_mem_cons.1 sent).2 served
  | mutateFailed active writable asked refused released =>
      exact released.served (List.forall_mem_cons.1 sent).2 served
  | mutateMismatched active writable asked applied clashing released =>
      exact released.served (List.forall_mem_cons.1 sent).2 served
  | @mutateAccepted mutation reply event active =>
      cases now : mutation.commitNow with
      | true => simp [lastCleanup]
      | false => exact served
  | commitUnwritten | commitFailed | commitConfirmed => simp [lastCleanup]
  | discarded released => exact released.served sent served

/-- On pools that serve, no cleanup of a life fails for want of an endpoint. -/
theorem through_served (serves : ∀ occasion ∈ occasions, occasion.client.pool.Serves)
    (served : transaction.lastCleanup ≠ some (.failed .noEndpoints)) :
    (transaction.through occasions).lastCleanup ≠ some (.failed .noEndpoints) := by
  induction occasions generalizing transaction with
  | nil => exact served
  | cons occasion rest inductionHypothesis =>
      obtain ⟨first, others⟩ := List.forall_mem_cons.1 serves
      obtain ⟨events, yields, -, sent⟩ :=
        (transaction.perform occasion.operation).run_yields_sent
          { client := occasion.client, traffic := { inbox := occasion.inbox } } first
      exact inductionHypothesis others ((performs_of_yields yields).served sent served)

/-- With a policy of the client no transaction is released for want of an endpoint: without endpoints
nothing is ever written. -/
theorem through_served_of_offers
    (offered : ∀ occasion ∈ occasions, occasion.client.Offers endpoints) :
    ((start mode seed).through occasions).lastCleanup ≠ some (.failed .noEndpoints) := by
  by_cases empty : endpoints = []
  · have unsent : Turn.sent ((start mode seed).life occasions) = [] := by
      apply sent_life_of_empty
      exact fun occasion member => (offered occasion member).endpoints.trans empty
    intro unserved
    have written := ((through_testifies mode seed occasions).marked _ unserved).2
    obtain ⟨exchange, member, -⟩ := (through_stands mode seed occasions).written written
    rw [unsent] at member
    cases member
  · apply through_served
    · intro occasion member
      obtain ⟨same, builtIn⟩ := offered occasion member
      exact ⟨same ▸ empty, builtIn⟩
    · simp [start, lastCleanup]

/-- The record of the cleanup tells whether the server was asked to forget the transaction. It was not
if there is no record; if there is one, an abort was sent exactly if the record says that it was
attempted and not that there was no endpoint for it. With a policy of the client there always is one,
so that an attempt is an abort that was sent. -/
theorem abort_sent_iff (mode : Mode) (seed : Watermark) (occasions : List Occasion) :
    let sent := Turn.sent ((start mode seed).life occasions)
    let last := (start mode seed).through occasions
    (last.lastCleanup = none → ¬ Aborts sent) ∧
      (∀ cleanup, last.lastCleanup = some cleanup →
        (Aborts sent ↔ cleanup.wasAttempted = true ∧ cleanup ≠ .failed .noEndpoints)) ∧
      ∀ endpoints, (∀ occasion ∈ occasions, occasion.client.Offers endpoints) →
        ∀ cleanup, last.lastCleanup = some cleanup →
          (cleanup.wasAttempted = true ↔ Aborts sent) := by
  intro sent last
  have reports : last.Reports sent := through_reports mode seed occasions
  refine ⟨reports.unrecorded, reports.recorded, ?_⟩
  intro endpoints offered cleanup recorded
  have served : cleanup ≠ .failed .noEndpoints := by
    rintro rfl
    exact through_served_of_offers offered recorded
  rw [reports.recorded cleanup recorded, and_iff_left served]

end Life

end Transaction

/-- A policy that selects an endpoint for the write and none for the abort: the record says that an
abort was attempted, and none was sent. -/
theorem Session.attempted_without_abort :
    let pool := (Pool.ofEndpoints [{}]).withPolicy (.listed [some 0, none])
    let script : List (Step × List Delivery) :=
      [(.begin "" .readWrite none false, []), (.operate "" (.mutate {}), []),
        (.operate "" .discard, [])]
    let (records, last) := Session.run { client := .ofPool pool } script
    let cleanup := (last.transaction? "").bind Transaction.lastCleanup
    cleanup = some (.failed .noEndpoints) ∧ cleanup.map Cleanup.wasAttempted = some true ∧
      ¬ Aborts (records.flatMap Record.exchanges) := by
  decide

end GraphClient
