import GraphClient.Proofs.Transaction.Ledger
import GraphClient.SortedMap.Lemmas

namespace GraphClient

namespace Transaction

open Ledger

/-- A transaction holds what its exchanges have taught it since it began with its seed. -/
structure Reflects (transaction : Transaction) (seed : Watermark) (past : List Exchange) :
    Prop where
  startTimestamp : transaction.context.startTimestamp = assigned (learnt past)
  watermark : transaction.context.watermark = seed ⊔ reported (learnt past)
  keys : transaction.context.keys =
    SortedSet.ofList ((learnt past).flatMap fun reply => reply.keys)
  unaborted : transaction.isFinished = false → transaction.context.aborted = false

/-- What the events of an operation teach a transaction. -/
inductive Learns (transaction : Transaction) (past : List Exchange) (events : List Event)
    (after : Transaction) : Prop where
  | nothing (rejected : ∀ exchange ∈ Event.exchanges events, accepted? past exchange = none)
      (unfolded : Event.folds events = [])
      (kept : after.context = transaction.context ∧
          (after.isFinished = false → transaction.isFinished = false) ∨
        after.context = transaction.context.markAborted ∧ after.isFinished = true)
  | report {exchange : Exchange} {reply : WireContext}
      (sent : Event.exchanges events = [exchange]) (reported : exchange.report? = some reply)
      (compatible : Compatible (assigned (learnt past)) reply.startTimestamp)
      (folded : Event.folds events = [after.context.watermark])
      (extended : after.context = transaction.context.extend reply)
      (active : transaction.isFinished = false)
  | confirmation {exchange : Exchange} {reply : WireContext}
      (sent : Event.exchanges events = [exchange]) (unreported : exchange.report? = none)
      (confirmed : exchange.confirmation? = some reply)
      (compatible : Compatible (assigned (learnt past)) reply.startTimestamp)
      (folded : Event.folds events = [reply.watermark])
      (kept : after.context = transaction.context) (settled : after.isFinished = true)

variable {transaction after : Transaction} {events : List Event} {seed : Watermark}
  {past : List Exchange}

/-- A transaction starts with what its seed says and with nothing learnt. -/
theorem start_reflects (mode : Mode) (seed : Watermark) : (start mode seed).Reflects seed [] where
  startTimestamp := rfl
  watermark := (sup_bot_eq seed).symm
  keys := rfl
  unaborted _ := rfl

/-- An exchange in which the call failed teaches nothing. -/
theorem rejected_of_error {call : Call} {failure : CallFailure} {event : Event}
    (got : call.Gets (.error failure) event) :
    ∀ exchange ∈ Event.exchanges [event], accepted? past exchange = none := by
  rcases got.of_error with ⟨-, rfl⟩ | ⟨position, endpoint, error, -, rfl⟩
  · simp
  · intro exchange member
    rw [Event.exchanges_exchanged, Event.exchanges_nil, List.mem_singleton] at member
    subst member
    exact accepted?_of_refused

/-- An exchange whose reply is rejected teaches nothing, wherever the call went. -/
theorem rejected_of_ok {call : Call} {reply : call.Reply} {event : Event}
    (got : call.Gets (.ok reply) event)
    (rejected : ∀ position endpoint,
      accepted? past ⟨position, endpoint, call, .ok reply⟩ = none) :
    ∀ exchange ∈ Event.exchanges [event], accepted? past exchange = none := by
  obtain ⟨position, endpoint, rfl⟩ := got.of_ok
  intro exchange member
  rw [Event.exchanges_exchanged, Event.exchanges_nil, List.mem_singleton] at member
  subst member
  exact rejected position endpoint

theorem Releases.finished_after (released : transaction.Releases events after) :
    after.isFinished = true := by
  cases released with
  | finished closed => exact closed
  | skipped => rfl
  | aborted => rfl

theorem Releases.folds_eq_nil (released : transaction.Releases events after) :
    Event.folds events = [] := by
  cases released with
  | finished => rfl
  | skipped => rfl
  | aborted active written asked => exact asked.folds_eq_nil

/-- Releasing a transaction does not change its context except to mark it as aborted. -/
theorem Releases.kept (released : transaction.Releases events after) :
    after.context = transaction.context ∧
        (after.isFinished = false → transaction.isFinished = false) ∨
      after.context = transaction.context.markAborted ∧ after.isFinished = true := by
  cases released with
  | finished => exact .inl ⟨rfl, id⟩
  | skipped active => exact .inl ⟨rfl, fun _ => active⟩
  | aborted => exact .inr ⟨rfl, rfl⟩

/-- A context that was kept or marked as aborted is the same but for the mark. -/
theorem context_eq_of_kept {stays closed : Prop}
    (kept : after.context = transaction.context ∧ stays ∨
      after.context = transaction.context.markAborted ∧ closed) :
    after.context = { transaction.context with aborted := after.context.aborted } := by
  rcases kept with ⟨kept, -⟩ | ⟨marked, -⟩
  · rw [kept]
  · rw [marked]
    rfl

/-- The answer to an abort is of no interest. -/
theorem Releases.rejected (released : transaction.Releases events after) :
    ∀ exchange ∈ Event.exchanges events, accepted? past exchange = none := by
  cases released with
  | finished => simp
  | skipped => simp
  | @aborted _ _ answer event asked =>
      cases answer with
      | error failure => exact rejected_of_error asked
      | ok reply =>
          exact rejected_of_ok asked fun _ _ => accepted?_of_silent rfl
            (Exchange.confirmation?_of_not_confirmed fun confirmed => Bool.noConfusion confirmed.1)

/-- Releasing a transaction after an exchange that was rejected teaches nothing. -/
theorem Releases.learns_nothing {transaction origin : Transaction} {event : Event}
    (released : transaction.Releases events after) (same : transaction.context = origin.context)
    (rejected : ∀ exchange ∈ Event.exchanges [event], accepted? past exchange = none)
    (unfolded : Event.folds [event] = []) : origin.Learns past (event :: events) after := by
  rw [← List.singleton_append]
  apply Learns.nothing
  · intro exchange member
    rw [Event.exchanges_append, List.mem_append] at member
    exact member.elim (rejected exchange) (released.rejected exchange)
  · rw [Event.folds_append, unfolded, released.folds_eq_nil, List.append_nil]
  · have kept := released.kept
    rw [same] at kept
    rcases kept with ⟨unchanged, stays⟩ | marked
    · have ended := released.finished_after
      exact .inl ⟨unchanged, fun active => Bool.noConfusion (ended.symm.trans active)⟩
    · exact .inr marked

/-- The answer to a write that was not applied is not accepted. -/
theorem rejected_of_mutationError {mutation : Mutation} {answer : Except CallFailure MutationReply}
    {error : ClientError} {event : Event} (asked : (Call.mutate mutation).Gets answer event)
    (refused : mutationError answer = .error error) :
    ∀ exchange ∈ Event.exchanges [event], accepted? past exchange = none := by
  cases answer with
  | error failure => exact rejected_of_error asked
  | ok reply =>
      have stated : reply.statedError ≠ none := by
        intro unstated
        rw [mutationError_eq_ok_iff.2 ⟨rfl, unstated⟩] at refused
        cases refused
      exact rejected_of_ok asked fun _ _ =>
        accepted?_of_silent (Exchange.report?_mutate_of_not_applied stated) rfl

/-- The answer to a commit that was not confirmed is not accepted. -/
theorem rejected_of_commitOutcome {answer : Except CallFailure WireContext} {error : ClientError}
    {event : Event} (asked : (Call.commitOrAbort transaction.context.toWire).Gets answer event)
    (refused : transaction.commitOutcome answer = .error error)
    (start : transaction.context.startTimestamp = assigned (learnt past)) :
    ∀ exchange ∈ Event.exchanges [event], accepted? past exchange = none := by
  cases answer with
  | error failure => exact rejected_of_error asked
  | ok reply =>
      apply rejected_of_ok asked
      intro position endpoint
      by_cases confirmed : transaction.context.aborted = false ∧ reply.aborted = false
      · rw [accepted?_of_confirmation rfl (Exchange.confirmation?_of_confirmed confirmed), ← start]
        apply if_neg
        intro compatible
        rw [commitOutcome_eq_ok_iff.2 ⟨reply, rfl, compatible, confirmed.2, rfl⟩] at refused
        cases refused
      · exact accepted?_of_silent rfl (Exchange.confirmation?_of_not_confirmed confirmed)

/-- An operation teaches a transaction one reply at most, and folds a watermark only then. -/
theorem Performs.learns {operation : Operation} {outcome : Outcome}
    (performed : transaction.Performs operation events outcome after)
    (reflects : transaction.Reflects seed past) : transaction.Learns past events after := by
  have idle {after : Transaction} (same : after.context = transaction.context)
      (stays : after.isFinished = false → transaction.isFinished = false) :
      transaction.Learns past [] after := .nothing (by simp) rfl (.inl ⟨same, stays⟩)
  cases performed with
  | queryFinished => exact idle rfl id
  | queryFailed active asked =>
      exact .nothing (rejected_of_error asked) asked.folds_eq_nil (.inl ⟨rfl, id⟩)
  | queryAccepted active asked compatible =>
      obtain ⟨position, endpoint, rfl⟩ := asked.of_ok
      rw [reflects.startTimestamp] at compatible
      exact .report rfl rfl compatible rfl rfl active
  | queryMismatched active asked clashing released =>
      rw [reflects.startTimestamp] at clashing
      have rejected : ∀ exchange ∈ Event.exchanges [_], accepted? past exchange = none :=
        rejected_of_ok asked fun _ _ => by rw [accepted?_of_report rfl, if_neg clashing]
      exact released.learns_nothing rfl rejected asked.folds_eq_nil
  | mutateFinished => exact idle rfl id
  | mutateReadOnly => exact idle rfl id
  | mutateFailed active writable asked refused released =>
      exact released.learns_nothing rfl (rejected_of_mutationError asked refused)
        asked.folds_eq_nil
  | mutateAccepted active writable asked applied compatible =>
      obtain ⟨position, endpoint, rfl⟩ := asked.of_ok
      rw [reflects.startTimestamp] at compatible
      exact .report rfl (Exchange.report?_mutate_of_applied applied) compatible rfl rfl active
  | mutateMismatched active writable asked applied clashing released =>
      rw [reflects.startTimestamp] at clashing
      have rejected : ∀ exchange ∈ Event.exchanges [_], accepted? past exchange = none :=
        rejected_of_ok asked fun _ _ => by
          rw [accepted?_of_report (Exchange.report?_mutate_of_applied applied), if_neg clashing]
      exact released.learns_nothing rfl rejected asked.folds_eq_nil
  | commitFinished => exact idle rfl id
  | commitUnwritten active => exact idle rfl fun _ => active
  | commitFailed active written asked refused =>
      exact .nothing (rejected_of_commitOutcome asked refused reflects.startTimestamp)
        asked.folds_eq_nil (.inl ⟨rfl, fun _ => active⟩)
  | commitConfirmed active written asked compatible confirmed =>
      obtain ⟨position, endpoint, rfl⟩ := asked.of_ok
      rw [reflects.startTimestamp] at compatible
      exact .confirmation rfl rfl
        (Exchange.confirmation?_of_confirmed ⟨reflects.unaborted active, confirmed⟩) compatible rfl
        rfl rfl
  | discarded released =>
      exact .nothing released.rejected released.folds_eq_nil released.kept
  | bestEffortSet => exact idle rfl id
  | bestEffortRefused => exact idle rfl id

/-- A transaction goes on reflecting its exchanges. -/
theorem Learns.reflects (learns : transaction.Learns past events after)
    (reflects : transaction.Reflects seed past) :
    after.Reflects seed (past ++ Event.exchanges events) := by
  cases learns with
  | nothing rejected unfolded kept =>
      have same := learnt_append_of_rejected rejected
      have held := context_eq_of_kept kept
      constructor
      · rw [same, held, reflects.startTimestamp]
      · rw [same, held, reflects.watermark]
      · rw [same, held, reflects.keys]
      · intro active
        rcases kept with ⟨kept, stays⟩ | ⟨-, closed⟩
        · rw [kept]
          exact reflects.unaborted (stays active)
        · rw [closed] at active
          cases active
  | report sent reported compatible folded extended active =>
      rw [sent]
      have taken := learnt_of_report reported compatible
      constructor
      · rw [taken, assigned_append, assigned_singleton, ← reflects.startTimestamp, extended]
        rfl
      · rw [taken, reported_append, reported_singleton, ← sup_assoc, ← reflects.watermark, extended]
        rfl
      · rw [taken, List.flatMap_append, List.flatMap_singleton, SortedSet.ofList,
          SortedSet.insertMany, List.foldl_append, extended]
        change SortedSet.insertMany transaction.context.keys _ = _
        rw [reflects.keys]
        rfl
      · intro _
        rw [extended]
        exact reflects.unaborted active
  | @confirmation exchange reply sent unreported confirmed compatible folded kept settled =>
      rw [sent]
      have same : learnt (past ++ [exchange]) = learnt past := learnt_of_report_eq_none unreported
      constructor
      · rw [same, kept, reflects.startTimestamp]
      · rw [same, kept, reflects.watermark]
      · rw [same, kept, reflects.keys]
      · intro active
        rw [settled] at active
        cases active

/-- An operation that goes on to another call has learnt nothing before it. -/
theorem Learns.learnt_before (learns : transaction.Learns past events after)
    {before rest : List Exchange} {exchange : Exchange}
    (split : Event.exchanges events = before ++ exchange :: rest) :
    learnt (past ++ before) = learnt past := by
  have alone {only : Exchange} (sent : Event.exchanges events = [only]) : before = [] := by
    rw [split, List.append_eq_singleton_iff] at sent
    rcases sent with ⟨nothing, -⟩ | ⟨-, impossible⟩
    · exact nothing
    · cases impossible
  cases learns with
  | nothing rejected =>
      rw [split] at rejected
      exact learnt_append_of_rejected fun earlier member =>
        rejected earlier (List.mem_append_left _ member)
  | report sent => rw [alone sent, List.append_nil]
  | confirmation sent => rw [alone sent, List.append_nil]

/-- The calls that an operation may send, with what the transaction knows at that time. -/
inductive Sends (transaction : Transaction) : Operation → Call → Prop where
  | query {text : String} {bindings : TextMap} :
      transaction.Sends (.query text bindings) (.query (transaction.request text bindings))
  | mutate {mutation : Mutation} :
      transaction.Sends (.mutate mutation) (.mutate (transaction.stamp mutation))
  | commit (active : transaction.isFinished = false) :
      transaction.Sends .commit (.commitOrAbort transaction.context.toWire)
  | abort {operation : Operation} (uncommitted : operation ≠ .commit) :
      transaction.Sends operation (.commitOrAbort transaction.context.markAborted.toWire)

/-- Releasing a transaction sends nothing but an abort. -/
theorem Releases.call_eq (released : transaction.Releases events after) {event : Event}
    (member : event ∈ events) {call : Call} (made : event.call? = some call) :
    call = .commitOrAbort transaction.context.markAborted.toWire := by
  cases released with
  | finished => cases member
  | skipped => cases member
  | aborted active written asked =>
      cases List.mem_singleton.1 member
      exact Option.some.inj (made.symm.trans asked.call?_eq)

/-- Every call of an operation is one that the operation may send. -/
theorem Performs.sends {operation : Operation} {outcome : Outcome}
    (performed : transaction.Performs operation events outcome after) {event : Event}
    (member : event ∈ events) {call : Call} (made : event.call? = some call) :
    transaction.Sends operation call := by
  have first {asked : Call} {answer : Except CallFailure asked.Reply}
      (got : asked.Gets answer event) : asked = call :=
    Option.some.inj (got.call?_eq.symm.trans made)
  have unfolded {update : Watermark} (same : event = .folded update) : False := by
    subst same
    cases made
  cases performed with
  | queryFinished => cases member
  | queryFailed active asked =>
      cases List.mem_singleton.1 member
      exact first asked ▸ .query
  | queryAccepted active asked compatible =>
      rcases List.mem_cons.1 member with rfl | later
      · exact first asked ▸ .query
      · exact (unfolded (List.mem_singleton.1 later)).elim
  | queryMismatched active asked clashing released =>
      rcases List.mem_cons.1 member with rfl | later
      · exact first asked ▸ .query
      · exact released.call_eq later made ▸ .abort (by simp)
  | mutateFinished => cases member
  | mutateReadOnly => cases member
  | mutateFailed active writable asked refused released =>
      rcases List.mem_cons.1 member with rfl | later
      · exact first asked ▸ .mutate
      · exact released.call_eq later made ▸ .abort (by simp)
  | mutateAccepted active writable asked applied compatible =>
      rcases List.mem_cons.1 member with rfl | later
      · exact first asked ▸ .mutate
      · exact (unfolded (List.mem_singleton.1 later)).elim
  | mutateMismatched active writable asked applied clashing released =>
      rcases List.mem_cons.1 member with rfl | later
      · exact first asked ▸ .mutate
      · exact released.call_eq later made ▸ .abort (by simp)
  | commitFinished => cases member
  | commitUnwritten => cases member
  | commitFailed active written asked refused =>
      cases List.mem_singleton.1 member
      exact first asked ▸ .commit active
  | commitConfirmed active written asked compatible confirmed =>
      rcases List.mem_cons.1 member with rfl | later
      · exact first asked ▸ .commit active
      · exact (unfolded (List.mem_singleton.1 later)).elim
  | discarded released => exact released.call_eq member made ▸ .abort (by simp)
  | bestEffortSet => cases member
  | bestEffortRefused => cases member

/-- Every exchange of an operation holds a call that the transaction sends for it. -/
theorem Performs.sends_of_exchange {operation : Operation} {outcome : Outcome}
    (performed : transaction.Performs operation events outcome after) {exchange : Exchange}
    (member : exchange ∈ Event.exchanges events) : transaction.Sends operation exchange.call := by
  obtain ⟨event, among, shown⟩ := List.mem_filterMap.1 member
  cases event with
  | unsent call => cases shown
  | exchanged sent =>
      cases shown
      exact performed.sends among rfl
  | folded update => cases shown

end Transaction

end GraphClient
