import GraphClient.Proofs.Plan.Service
import GraphClient.Proofs.Transaction.Finality

namespace GraphClient

/-- The pool of the client has these endpoints, and chooses among them by a policy of its own. -/
structure Client.Offers (client : Client) (endpoints : List Endpoint) : Prop where
  endpoints : client.pool.endpoints = endpoints
  builtIn : client.pool.policy.isBuiltIn = true

/-- The operation is a write that was committed when it was applied. -/
def Operation.CommitsAtOnce (operation : Operation) (outcome : Outcome) : Prop :=
  ∃ mutation reply, operation = .mutate mutation ∧ mutation.commitNow = true ∧
    outcome = .mutated reply

namespace Exchange

/-- The number of signals among the exchanges. -/
def signals (exchanges : List Exchange) : Nat :=
  exchanges.countP isSignal

/-- One of the exchanges is a write that was applied. -/
def Written (exchanges : List Exchange) : Prop :=
  ∃ exchange ∈ exchanges, exchange.Applies

@[simp] theorem signals_nil : signals [] = 0 :=
  rfl

@[simp] theorem signals_append (first second : List Exchange) :
    signals (first ++ second) = signals first + signals second :=
  List.countP_append

@[simp] theorem not_written_nil : ¬ Written [] := by
  rintro ⟨exchange, member, -⟩
  cases member

@[simp] theorem written_append {first second : List Exchange} :
    Written (first ++ second) ↔ Written first ∨ Written second := by
  simp only [Written, List.mem_append, or_and_right, exists_or]

end Exchange

open Exchange

/-- A write of these turns was applied, and none of them was committed at once. -/
def Turn.Owes (turns : List Turn) : Prop :=
  Written (Turn.sent turns) ∧ ∀ turn ∈ turns, ¬ turn.operation.CommitsAtOnce turn.record.outcome

/-- The exchanges hold one signal if the turns owe one, and none otherwise. -/
structure Turn.SettledBy (turns : List Turn) (exchanges : List Exchange) : Prop where
  owed : Turn.Owes turns → signals exchanges = 1
  unowed : ¬ Turn.Owes turns → signals exchanges = 0

namespace Call.Gets

variable {call : Call} {answer : Except CallFailure call.Reply} {event : Event}

/-- A call that was sent has an exchange of its own. -/
theorem exchange_of_sent (got : call.Gets answer event) (sent : ¬ event.IsUnsent) :
    ∃ exchange, event = .exchanged exchange ∧ exchange.call = call := by
  cases got with
  | unsent => exact absurd ⟨call, rfl⟩ sent
  | exchanged position endpoint given => exact ⟨_, rfl, rfl⟩

/-- A call that is no commit and no abort gives no signal. -/
theorem signals_eq_zero (got : call.Gets answer event)
    (other : ∀ context, call ≠ .commitOrAbort context) : signals (Event.exchanges [event]) = 0 := by
  cases got with
  | unsent => rfl
  | exchanged position endpoint given =>
      cases call with
      | commitOrAbort context => exact absurd rfl (other context)
      | query | mutate | alter | checkVersion => rfl

/-- A call that is no mutation writes nothing. -/
theorem not_written (got : call.Gets answer event) (other : ∀ mutation, call ≠ .mutate mutation) :
    ¬ Written (Event.exchanges [event]) := by
  cases got with
  | unsent => exact not_written_nil
  | exchanged position endpoint given =>
      rintro ⟨exchange, member, applies⟩
      cases List.mem_singleton.1 member
      cases call with
      | mutate mutation => exact other mutation rfl
      | query | commitOrAbort | alter | checkVersion => exact applies

/-- A commit or an abort that is sent is one signal. -/
theorem signals_eq_one {context : WireContext} {answer : Except CallFailure WireContext}
    (got : (Call.commitOrAbort context).Gets answer event) (sent : ¬ event.IsUnsent) :
    signals (Event.exchanges [event]) = 1 := by
  obtain ⟨exchange, rfl, signal⟩ := got.exchange_of_sent sent
  have counted : exchange.isSignal = true := Exchange.isSignal_iff.2 ⟨context, signal⟩
  simp [signals, counted]

/-- A write is applied exactly if it is not sorted as an error. -/
theorem written_iff {mutation : Mutation} {answer : Except CallFailure MutationReply}
    (got : (Call.mutate mutation).Gets answer event) :
    Written (Event.exchanges [event]) ↔
      ∃ reply, Transaction.mutationError answer = .ok reply := by
  cases answer with
  | error failure =>
      have unwritten : ¬ Written (Event.exchanges [event]) := by
        rcases got.of_error with ⟨-, rfl⟩ | ⟨position, endpoint, error, -, rfl⟩
        · exact not_written_nil
        · simp [Written, Exchange.Applies]
      simp [unwritten, Transaction.mutationError]
  | ok reply =>
      obtain ⟨position, endpoint, rfl⟩ := got.of_ok
      simp only [Transaction.mutationError_eq_ok_iff, Except.ok.injEq, exists_eq_left',
        MutationReply.statedError_eq_none_iff]
      simp [Written, Exchange.Applies]

end Call.Gets

namespace Transaction

/-- What the exchanges between two states of a transaction have to do with its release. As long as the
transaction is active there was no signal, and it knows of every write. Once it is finished there was
one signal for all of its writes, unless it was committed at once. -/
structure Disposes (before : Transaction) (exchanges : List Exchange) (atOnce : Prop)
    (after : Transaction) : Prop where
  pending : after.isFinished = false →
    signals exchanges = 0 ∧ ¬ atOnce ∧
      (after.mutated = true ↔ before.mutated = true ∨ Written exchanges)
  released : after.isFinished = true →
    (before.mutated = true ∨ Written exchanges) ∧ ¬ atOnce → signals exchanges = 1
  silent : after.isFinished = true →
    ¬ ((before.mutated = true ∨ Written exchanges) ∧ ¬ atOnce) → signals exchanges = 0

variable {before middle after transaction : Transaction} {first second : List Exchange}
  {early late : Prop} {events : List Event} {operation : Operation} {outcome : Outcome}

theorem disposes_nil (active : transaction.isFinished = false) :
    transaction.Disposes [] False transaction where
  pending _ := ⟨rfl, not_false, by simp⟩
  released closed := Bool.noConfusion (active.symm.trans closed)
  silent closed := Bool.noConfusion (active.symm.trans closed)

/-- What an active transaction does next is added to what it has done. -/
theorem Disposes.append (disposes : before.Disposes first early middle)
    (active : middle.isFinished = false) (onward : middle.Disposes second late after) :
    before.Disposes (first ++ second) (early ∨ late) after := by
  obtain ⟨unsignalled, uncommitted, written⟩ := disposes.pending active
  have same : (before.mutated = true ∨ Written (first ++ second)) ∧ ¬ (early ∨ late) ↔
      (middle.mutated = true ∨ Written second) ∧ ¬ late := by
    rw [written_append, written, or_assoc, not_or, and_iff_right uncommitted]
  constructor
  · intro still
    obtain ⟨unsignalledToo, uncommittedToo, writtenToo⟩ := onward.pending still
    refine ⟨?_, not_or.2 ⟨uncommitted, uncommittedToo⟩, ?_⟩
    · rw [signals_append, unsignalled, unsignalledToo]
    · rw [writtenToo, written, written_append, or_assoc]
  · intro closed due
    rw [signals_append, unsignalled, Nat.zero_add]
    exact onward.released closed (same.1 due)
  · intro closed undue
    rw [signals_append, unsignalled, Nat.zero_add]
    exact onward.silent closed (mt same.2 undue)

/-- Releasing a transaction sends a signal exactly if it has written. -/
theorem Releases.disposes (released : transaction.Releases events after)
    (active : transaction.isFinished = false) (sent : ∀ event ∈ events, ¬ event.IsUnsent) :
    transaction.Disposes (Event.exchanges events) False after := by
  have closed := released.finished_after
  refine ⟨fun still => Bool.noConfusion (still.symm.trans closed), fun _ => ?_, fun _ => ?_⟩
  · rintro ⟨written, -⟩
    cases released with
    | finished ended => exact Bool.noConfusion (active.symm.trans ended)
    | skipped _ unwritten => simp [unwritten] at written
    | aborted _ _ asked => exact asked.signals_eq_one (sent _ List.mem_cons_self)
  · intro undue
    cases released with
    | finished => rfl
    | skipped => rfl
    | aborted _ written => exact absurd ⟨.inl written, not_false⟩ undue

/-- A call that is no signal leaves the release open. -/
theorem disposes_of_call {call : Call} {answer : Except CallFailure call.Reply} {event : Event}
    (got : call.Gets answer event) (other : ∀ context, call ≠ .commitOrAbort context)
    (active : after.isFinished = false)
    (written : after.mutated = true ↔
      transaction.mutated = true ∨ Written (Event.exchanges [event])) :
    transaction.Disposes (Event.exchanges [event]) False after where
  pending _ := ⟨got.signals_eq_zero other, not_false, written⟩
  released closed := Bool.noConfusion (active.symm.trans closed)
  silent closed := Bool.noConfusion (active.symm.trans closed)

/-- A call after which the transaction is released. -/
theorem disposes_of_call_released {call : Call} {answer : Except CallFailure call.Reply}
    {event : Event} (got : call.Gets answer event)
    (other : ∀ context, call ≠ .commitOrAbort context) (active : middle.isFinished = false)
    (written : middle.mutated = true ↔
      transaction.mutated = true ∨ Written (Event.exchanges [event]))
    (released : middle.Releases events after)
    (sent : ∀ event ∈ events, ¬ event.IsUnsent) :
    transaction.Disposes (Event.exchanges (event :: events)) False after := by
  have call := disposes_of_call got other active written
  have both := call.append active (released.disposes active sent)
  rw [or_false, ← Event.exchanges_append, List.singleton_append] at both
  exact both

/-- A signal that settles a transaction after its writes. -/
theorem disposes_of_commit {answer : Except CallFailure WireContext} {context : WireContext}
    {event : Event} (got : (Call.commitOrAbort context).Gets answer event)
    (sent : ¬ event.IsUnsent) (written : transaction.mutated = true)
    (settled : after.isFinished = true) :
    transaction.Disposes (Event.exchanges [event]) False after where
  pending still := Bool.noConfusion (still.symm.trans settled)
  released _ _ := got.signals_eq_one sent
  silent _ undue := absurd ⟨.inl written, not_false⟩ undue

/-- An operation that does not commit at once leaves a signal for each of its writes, or knows of it. -/
theorem Performs.disposes_of_uncommitted
    (performed : transaction.Performs operation events outcome after)
    (active : transaction.isFinished = false) (sent : ∀ event ∈ events, ¬ event.IsUnsent)
    (uncommitted : ¬ operation.CommitsAtOnce outcome) :
    transaction.Disposes (Event.exchanges events) False after := by
  have read {text : String} {bindings : TextMap} {answer : Except CallFailure QueryReply}
      {event : Event}
      (asked : (Call.query (transaction.request text bindings)).Gets answer event) :
      transaction.mutated = true ↔ transaction.mutated = true ∨ Written (Event.exchanges [event]) :=
    (or_iff_left (asked.not_written (by simp))).symm
  cases performed with
  | queryFinished closed | mutateFinished closed | commitFinished closed =>
      rw [active] at closed
      cases closed
  | queryFailed _ asked => exact disposes_of_call asked (by simp) active (read asked)
  | queryAccepted _ asked compatible =>
      rw [Event.exchanges_pair_folded]
      exact disposes_of_call asked (by simp) active (read asked)
  | queryMismatched _ asked clashing released =>
      have others := (List.forall_mem_cons.1 sent).2
      exact disposes_of_call_released asked (by simp) active (read asked) released others
  | mutateReadOnly => exact disposes_nil active
  | @mutateFailed _ answer error event _ _ _ writable asked refused released =>
      have others := (List.forall_mem_cons.1 sent).2
      have unwritten : ¬ Written (Event.exchanges [event]) := by
        rw [asked.written_iff, refused]
        simp
      exact disposes_of_call_released asked (by simp) active (or_iff_left unwritten).symm released
        others
  | @mutateAccepted mutation reply event _ writable asked applied compatible =>
      rw [Event.exchanges_pair_folded]
      have written : Written (Event.exchanges [event]) :=
        asked.written_iff.2 ⟨reply, mutationError_eq_ok_iff.2 ⟨rfl, applied⟩⟩
      have later : mutation.commitNow = false := by
        simpa [Operation.CommitsAtOnce] using uncommitted
      rw [later, if_neg Bool.false_ne_true]
      exact disposes_of_call asked (by simp) active ⟨fun _ => .inr written, fun _ => rfl⟩
  | @mutateMismatched _ reply event _ _ _ writable asked applied clashing released =>
      have others := (List.forall_mem_cons.1 sent).2
      have written : Written (Event.exchanges [event]) :=
        asked.written_iff.2 ⟨reply, mutationError_eq_ok_iff.2 ⟨rfl, applied⟩⟩
      exact disposes_of_call_released asked (by simp) (by exact active)
        ⟨fun _ => .inr written, fun _ => rfl⟩ released others
  | commitUnwritten _ unwritten =>
      refine ⟨fun still => Bool.noConfusion still, ?_, fun _ _ => rfl⟩
      rintro - ⟨written, -⟩
      simp [unwritten] at written
  | commitFailed _ written asked refused =>
      exact disposes_of_commit asked (sent _ List.mem_cons_self) written rfl
  | commitConfirmed _ written asked compatible confirmed =>
      rw [Event.exchanges_pair_folded]
      exact disposes_of_commit asked (sent _ List.mem_cons_self) written rfl
  | discarded released => exact released.disposes active sent
  | bestEffortSet =>
      have same := disposes_nil active
      exact ⟨same.pending, same.released, same.silent⟩
  | bestEffortRefused => exact disposes_nil active

/-- What an operation on an active transaction has to do with its release. -/
theorem Performs.disposes (performed : transaction.Performs operation events outcome after)
    (active : transaction.isFinished = false) (sent : ∀ event ∈ events, ¬ event.IsUnsent) :
    transaction.Disposes (Event.exchanges events) (operation.CommitsAtOnce outcome) after := by
  by_cases atOnce : operation.CommitsAtOnce outcome
  · have committed := atOnce
    obtain ⟨mutation, reply, rfl, now, rfl⟩ := atOnce
    cases performed with
    | mutateAccepted _ writable asked =>
        have settled : Transaction.isFinished
            { transaction with phase := if mutation.commitNow then .settled else transaction.phase }
              = true := by
          rw [now]
          rfl
        rw [Event.exchanges_pair_folded]
        refine ⟨fun still => Bool.noConfusion (still.symm.trans settled), ?_, ?_⟩
        · rintro - ⟨-, uncommitted⟩
          exact absurd committed uncommitted
        · intro _ _
          exact asked.signals_eq_zero (by simp)
  · rw [eq_false atOnce]
    exact performed.disposes_of_uncommitted active sent atOnce

section Life

variable {occasion : Occasion} {occasions : List Occasion}

/-- A finished transaction commits nothing more. -/
theorem not_commitsAtOnce_of_finished (closed : transaction.isFinished = true)
    (occasions : List Occasion) :
    ∀ turn ∈ transaction.life occasions,
      ¬ turn.operation.CommitsAtOnce turn.record.outcome := by
  rintro turn member ⟨mutation, reply, operation, -, outcome⟩
  have refused := (life_idle closed occasions turn member).2.refused (by simp [operation])
    (by simp [operation])
  rw [outcome] at refused
  cases refused

/-- A turn on a pool that serves accounts for its signal and its writes. -/
theorem turn_disposes (active : transaction.isFinished = false)
    (serves : occasion.client.pool.Serves) :
    let turn := transaction.turn occasion
    transaction.Disposes turn.record.exchanges
      (turn.operation.CommitsAtOnce turn.record.outcome) turn.after := by
  intro turn
  obtain ⟨events, yields, shown, sent⟩ :=
    (transaction.perform occasion.operation).run_yields_sent
      { client := occasion.client, traffic := { inbox := occasion.inbox } } serves
  have exchanges : turn.record.exchanges = Event.exchanges events := shown.exchanges
  rw [exchanges]
  exact (performs_of_yields yields).disposes active sent

/-- What a whole life on pools that serve has to do with the release of the transaction. -/
theorem life_disposes (active : transaction.isFinished = false)
    (serves : ∀ occasion ∈ occasions, occasion.client.pool.Serves) :
    transaction.Disposes (Turn.sent (transaction.life occasions))
      (∃ turn ∈ transaction.life occasions,
        turn.operation.CommitsAtOnce turn.record.outcome)
      (transaction.through occasions) := by
  induction occasions generalizing transaction with
  | nil => simpa [life, through] using disposes_nil active
  | cons occasion rest inductionHypothesis =>
      obtain ⟨first, others⟩ := List.forall_mem_cons.1 serves
      have turn := turn_disposes active first
      rw [life, Turn.sent_cons, through]
      simp only [List.mem_cons, or_and_right, exists_or, exists_eq_left]
      cases ended : (transaction.turn occasion).after.isFinished with
      | false => exact turn.append ended (inductionHypothesis ended others)
      | true =>
          -- Nothing is sent and nothing is committed by the rest of the life.
          have committed := not_exists.2 fun later => not_and.2
            (not_commitsAtOnce_of_finished ended rest later)
          have closed := through_isFinished ended rest
          rw [sent_life_of_finished ended, List.append_nil, or_iff_left committed]
          refine ⟨fun still => Bool.noConfusion (still.symm.trans closed), ?_, ?_⟩
          · exact fun _ => turn.released ended
          · exact fun _ => turn.silent ended

/-- Without endpoints nothing is sent in a whole life. -/
theorem sent_life_of_empty (transaction : Transaction)
    (empty : ∀ occasion ∈ occasions, occasion.client.pool.endpoints = []) :
    Turn.sent (transaction.life occasions) = [] := by
  induction occasions generalizing transaction with
  | nil => rfl
  | cons occasion rest inductionHypothesis =>
      obtain ⟨first, others⟩ := List.forall_mem_cons.1 empty
      have unsent := (transaction.perform occasion.operation).run_of_empty
        { client := occasion.client, traffic := { inbox := occasion.inbox } } first
      have nothing : (transaction.turn occasion).record.exchanges = [] :=
        congrArg Traffic.exchanges unsent
      rw [life, Turn.sent_cons, nothing, inductionHypothesis _ others, List.append_nil]

/-- A transaction that is discarded is finished, whatever came of the abort. -/
theorem discard_isFinished (transaction : Transaction) (client : Client) (inbox : List Delivery) :
    (transaction.turn ⟨.discard, client, inbox⟩).after.isFinished = true := by
  obtain ⟨events, performed, -⟩ := transaction.turn_performs ⟨.discard, client, inbox⟩
  generalize (transaction.turn ⟨.discard, client, inbox⟩).record.outcome = outcome at performed
  cases performed with
  | discarded released => exact released.finished_after

/-- Letting go of a transaction is no write. -/
theorem owes_append_discard (transaction : Transaction) (client : Client) (inbox : List Delivery)
    (turns : List Turn) :
    Turn.Owes (turns ++ [transaction.turn ⟨.discard, client, inbox⟩]) ↔ Turn.Owes turns := by
  obtain ⟨events, performed, shown, -⟩ := transaction.turn_performs ⟨.discard, client, inbox⟩
  have unwritten : ¬ Written (transaction.turn ⟨.discard, client, inbox⟩).record.exchanges := by
    rintro ⟨exchange, member, applies⟩
    rw [shown] at member
    have sends := performed.sends_of_exchange member
    obtain ⟨position, endpoint, call, answer⟩ := exchange
    cases sends with
    | abort => exact applies
  have uncommitted : ¬ Operation.discard.CommitsAtOnce
      (transaction.turn ⟨.discard, client, inbox⟩).record.outcome := by
    rintro ⟨mutation, reply, impossible, -⟩
    cases impossible
  rw [Turn.Owes, Turn.Owes, Turn.sent_append, written_append, Turn.sent_cons, Turn.sent_nil,
    List.append_nil, or_iff_left unwritten, List.forall_mem_append, List.forall_mem_singleton]
  exact and_congr_right fun _ => and_iff_left uncommitted

variable {mode : Mode} {seed : Watermark} {endpoints : List Endpoint}

/-- A life that leaves its transaction finished has sent what it owes. -/
theorem settledBy_of_finished (offered : ∀ occasion ∈ occasions, occasion.client.Offers endpoints)
    (closed : ((start mode seed).through occasions).isFinished = true) :
    let turns := (start mode seed).life occasions
    Turn.SettledBy turns (Turn.sent turns) := by
  intro turns
  by_cases empty : endpoints = []
  · have unsent : Turn.sent turns = [] := by
      apply sent_life_of_empty
      exact fun occasion member => (offered occasion member).endpoints.trans empty
    constructor
    · rintro ⟨written, -⟩
      rw [unsent] at written
      exact absurd written not_written_nil
    · intro _
      rw [unsent, signals_nil]
  · have serves : ∀ occasion ∈ occasions, occasion.client.pool.Serves := by
      intro occasion member
      obtain ⟨same, builtIn⟩ := offered occasion member
      exact ⟨same ▸ empty, builtIn⟩
    have disposes := @life_disposes (start mode seed) _ rfl serves
    have due : Turn.Owes turns ↔
        ((start mode seed).mutated = true ∨ Written (Turn.sent turns)) ∧
          ¬ ∃ turn ∈ turns, turn.operation.CommitsAtOnce turn.record.outcome := by
      simp [Turn.Owes, start]
    constructor
    · exact fun owed => disposes.released closed (due.1 owed)
    · exact fun unowed => disposes.silent closed (mt due.2 unowed)

/-- A blocking transaction that is dropped where it may block discards itself. -/
theorem exchanges_drop {session : Session} {name : String} (blocking : session.flavour = .blocking)
    (held : session.transaction? name = some transaction) (inbox : List Delivery) :
    (session.drop inbox name false).1.exchanges =
      (transaction.turn ⟨.discard, session.client, inbox⟩).record.exchanges := by
  rw [Session.drop, held]
  dsimp only
  rw [blocking]
  change (transaction.discard.run _).2.traffic.exchanges =
    ((transaction.discard.bind fun released =>
      .done (Outcome.done, released)).run _).2.traffic.exchanges
  rw [Plan.run_bind]
  rfl

/-- However a transaction has lived, on endpoints that do not change and whatever the nodes answered:
once it is discarded, or dropped as a blocking transaction where it may block, the server has got
exactly one signal of it if a write was applied and none was committed at once, and none otherwise. -/
theorem every_write_released_once (mode : Mode) (seed : Watermark) (endpoints : List Endpoint)
    (occasions : List Occasion)
    (offered : ∀ occasion ∈ occasions, occasion.client.Offers endpoints) :
    (∀ (client : Client) (inbox : List Delivery), client.Offers endpoints →
      let turns := (start mode seed).life (occasions ++ [⟨.discard, client, inbox⟩])
      Turn.SettledBy turns (Turn.sent turns)) ∧
    ∀ (session : Session) (inbox : List Delivery) (name : String),
      session.flavour = .blocking → session.client.Offers endpoints →
      session.transaction? name = some ((start mode seed).through occasions) →
      let turns := (start mode seed).life occasions
      Turn.SettledBy turns
        (Turn.sent turns ++ (session.drop inbox name false).1.exchanges) := by
  have discarded (client : Client) (inbox : List Delivery) (offers : client.Offers endpoints) :
      let turns := (start mode seed).life (occasions ++ [⟨.discard, client, inbox⟩])
      Turn.SettledBy turns (Turn.sent turns) := by
    have offeredToo : ∀ occasion ∈ occasions ++ [⟨.discard, client, inbox⟩],
        occasion.client.Offers endpoints :=
      List.forall_mem_append.2 ⟨offered, List.forall_mem_singleton.2 offers⟩
    apply settledBy_of_finished offeredToo
    rw [through_append]
    exact discard_isFinished _ client inbox
  refine ⟨discarded, ?_⟩
  intro session inbox name blocking offers held turns
  have longer : (start mode seed).life (occasions ++ [⟨.discard, session.client, inbox⟩]) =
      turns ++ [((start mode seed).through occasions).turn ⟨.discard, session.client, inbox⟩] :=
    life_append _ _ _
  obtain ⟨owed, unowed⟩ := discarded session.client inbox offers
  rw [longer, owes_append_discard, Turn.sent_append, Turn.sent_cons, Turn.sent_nil,
    List.append_nil, ← exchanges_drop blocking held] at owed unowed
  exact ⟨owed, unowed⟩

/-- A transaction whose second write is answered under another start timestamp is released with that
write, although it asked to be committed at once; discarding or dropping it adds nothing. -/
theorem every_write_released_once_of_mismatch :
    let client := Client.ofPool (.ofEndpoints [{}])
    let applied (start : UInt64) : Delivery :=
      { answer := fun
          | .mutate _ => .ok { context := { startTimestamp := start } }
          | call => .ok call.emptyReply }
    let occasions : List Occasion :=
      [⟨.mutate {}, client, [applied 7]⟩, ⟨.mutate { commitNow := true }, client, [applied 8]⟩]
    let session : Session :=
      { flavour := .blocking
        client := client
        transactions := SortedMap.empty.insert "" ((start .readWrite .empty).through occasions) }
    let discarded := (start .readWrite .empty).life (occasions ++ [⟨.discard, client, []⟩])
    signals (Turn.sent discarded) = 1 ∧
      signals (Turn.sent ((start .readWrite .empty).life occasions) ++
        (session.drop [] "" false).1.exchanges) = 1 := by
  intro client applied occasions session discarded
  have offers : client.Offers [{}] := ⟨rfl, rfl⟩
  have offered : ∀ occasion ∈ occasions, occasion.client.Offers [{}] := by
    intro occasion member
    rcases List.mem_cons.1 member with rfl | later
    · exact offers
    · cases List.mem_singleton.1 later
      exact offers
  obtain ⟨byDiscard, byDrop⟩ := every_write_released_once .readWrite .empty [{}] occasions offered
  have held : session.transaction? "" = some ((start .readWrite .empty).through occasions) := by
    decide
  have refused : (((start .readWrite .empty).turn ⟨.mutate {}, client, [applied 7]⟩).after.turn
      ⟨.mutate { commitNow := true }, client, [applied 8]⟩).record.outcome =
        .failed (.startMismatch ⟨7, 8⟩) := by decide
  have owed : Turn.Owes ((start .readWrite .empty).life occasions) := by
    refine ⟨⟨_, List.mem_cons_self, rfl⟩, ?_⟩
    rintro turn member ⟨mutation, reply, operation, now, outcome⟩
    rcases List.mem_cons.1 member with rfl | later
    · cases operation
      cases now
    · cases List.mem_singleton.1 later
      rw [refused] at outcome
      cases outcome
  have owedToo : Turn.Owes discarded := by
    rw [show discarded = _ from life_append _ _ _]
    exact (owes_append_discard _ client [] _).2 owed
  exact ⟨(byDiscard client [] offers).owed owedToo, (byDrop session [] "" rfl offers held).owed owed⟩

end Life

end Transaction

end GraphClient
