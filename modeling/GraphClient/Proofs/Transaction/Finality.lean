/-
How a transaction comes to its end. It gives the server one signal at most, as its last call, and
only after a write that a node has applied; once it is finished its operations do nothing any more.
-/

import GraphClient.Proofs.Transaction.Life

namespace GraphClient

/-- If each of the marked elements comes last, there is one of them at most. -/
theorem countP_le_one_of_last {Element : Type} {marked : Element → Bool} {elements : List Element}
    (last : ∀ before element after, elements = before ++ element :: after →
      marked element = true → after = []) : elements.countP marked ≤ 1 := by
  induction elements with
  | nil => exact Nat.zero_le 1
  | cons first rest inductionHypothesis =>
      cases mark : marked first with
      | true =>
          rw [last [] first rest rfl mark, List.countP_singleton, mark, if_pos rfl]
      | false =>
          rw [List.countP_cons_of_neg (by rw [mark]; exact Bool.false_ne_true)]
          exact inductionHypothesis fun before element after split =>
            last (first :: before) element after (congrArg _ split)

namespace Exchange

/-- The exchange carries a signal: a commit or an abort. -/
def isSignal (exchange : Exchange) : Bool :=
  match exchange.call with
  | .commitOrAbort _ => true
  | .query _ | .mutate _ | .alter _ | .checkVersion => false

/-- The exchange is a write that a node served without stating an error. -/
def Applies : Exchange → Prop
  | ⟨_, _, .mutate _, .ok reply⟩ => reply.error.getD "" = ""
  | _ => False

/-- A signal is a commit or an abort, and nothing else. -/
theorem isSignal_iff {exchange : Exchange} :
    exchange.isSignal = true ↔ ∃ context, exchange.call = .commitOrAbort context := by
  obtain ⟨position, endpoint, call, answer⟩ := exchange
  cases call <;> simp [isSignal]

end Exchange

/-- The operation gives the transaction up: it releases it, or it is a read or a write that fails. -/
def Operation.GivesUp (operation : Operation) (outcome : Outcome) : Prop :=
  match operation with
  | .discard => True
  | .query _ _ | .mutate _ => ∃ error, outcome = .failed error
  | .commit | .bestEffort => False

/-- Nothing comes of the turn: no endpoint is selected, nothing is sent or folded, and the transaction
stays as it is but for its mode, which may still become the best-effort one. -/
structure Turn.Idle (turn : Turn) : Prop where
  still : turn.before.perform turn.operation = .done (turn.record.outcome, turn.after)
  unsent : turn.record.exchanges = []
  unfolded : turn.record.folds = []
  client : turn.clientAfter = turn.clientBefore
  closed : turn.after.isFinished = true
  kept : turn.after = turn.before ∨
    turn.operation = .bestEffort ∧ turn.before.mode.isReadOnly = true ∧
      turn.after = { turn.before with mode := .bestEffort }
  refused : turn.operation ≠ .discard → turn.operation ≠ .bestEffort →
    turn.record.outcome = .failed .finished

namespace Transaction

variable {transaction after : Transaction} {events : List Event} {operation : Operation}
  {outcome : Outcome}

section Finished

/-- A finished transaction keeps all but its mode, and its mode unless it may only read and is asked
for best effort. -/
theorem refusal_kept (transaction : Transaction) (operation : Operation) :
    (transaction.refusal operation).2 = transaction ∨
      operation = .bestEffort ∧ transaction.mode.isReadOnly = true ∧
        (transaction.refusal operation).2 = { transaction with mode := .bestEffort } := by
  cases operation with
  | bestEffort =>
      unfold refusal
      cases transaction.mode.isReadOnly with
      | true => exact .inr ⟨rfl, rfl, rfl⟩
      | false => exact .inl rfl
  | query => exact .inl rfl
  | mutate => exact .inl rfl
  | commit => exact .inl rfl
  | discard => exact .inl rfl

theorem refusal_isFinished (transaction : Transaction) (operation : Operation) :
    (transaction.refusal operation).2.isFinished = transaction.isFinished := by
  rcases transaction.refusal_kept operation with kept | ⟨-, -, changed⟩
  · rw [kept]
  · rw [changed]
    rfl

/-- A turn of a finished transaction is over at once: it turns the operation away and asks nothing
of the client. -/
theorem turn_of_finished (closed : transaction.isFinished = true) (occasion : Occasion) :
    transaction.turn occasion =
      { operation := occasion.operation
        before := transaction
        after := (transaction.refusal occasion.operation).2
        clientBefore := occasion.client
        clientAfter := occasion.client
        record :=
          { outcome := (transaction.refusal occasion.operation).1
            unused := occasion.inbox.length } } := by
  rw [turn, perform_of_finished closed]
  rfl

/-- A finished transaction spends its turn idle. -/
theorem turn_idle (closed : transaction.isFinished = true) (occasion : Occasion) :
    (transaction.turn occasion).Idle := by
  rw [turn_of_finished closed]
  constructor
  · exact perform_of_finished closed occasion.operation
  · rfl
  · rfl
  · rfl
  · exact (transaction.refusal_isFinished occasion.operation).trans closed
  · exact transaction.refusal_kept occasion.operation
  · intro undiscarded unset
    change (transaction.refusal occasion.operation).1 = .failed .finished
    cases asked : occasion.operation with
    | query => rfl
    | mutate => rfl
    | commit => rfl
    | discard => exact absurd asked undiscarded
    | bestEffort => exact absurd asked unset

/-- Once a transaction is finished, nothing comes of the rest of its life. -/
theorem life_idle (closed : transaction.isFinished = true) (occasions : List Occasion) :
    ∀ turn ∈ transaction.life occasions, turn.before.isFinished = true ∧ turn.Idle := by
  induction occasions generalizing transaction with
  | nil =>
      intro turn member
      cases member
  | cons occasion rest inductionHypothesis =>
      intro turn member
      have idle := turn_idle closed occasion
      rcases List.mem_cons.1 member with rfl | later
      · exact ⟨closed, idle⟩
      · exact inductionHypothesis idle.closed turn later

/-- A finished transaction sends nothing any more. -/
theorem sent_life_of_finished (closed : transaction.isFinished = true) (occasions : List Occasion) :
    Turn.sent (transaction.life occasions) = [] := by
  rw [Turn.sent, List.flatMap_eq_nil_iff]
  intro turn member
  exact (life_idle closed occasions turn member).2.unsent

theorem through_isFinished (closed : transaction.isFinished = true) (occasions : List Occasion) :
    (transaction.through occasions).isFinished = true := by
  induction occasions generalizing transaction with
  | nil => exact closed
  | cons occasion rest inductionHypothesis =>
      exact inductionHypothesis (turn_idle closed occasion).closed

end Finished

section Signals

variable {before rest : List Exchange} {signal : Exchange} {context : WireContext} {call : Call}
  {event : Event}

/-- A read or a write is no signal, so a signal follows it. -/
theorem exchanges_split_of_signal {answer : Except CallFailure call.Reply}
    (got : call.Gets answer event) (other : ∀ context, call ≠ .commitOrAbort context)
    (split : Event.exchanges (event :: events) = before ++ signal :: rest)
    (signals : signal.call = .commitOrAbort context) :
    ∃ more, before = Event.exchanges [event] ++ more ∧
      Event.exchanges events = more ++ signal :: rest := by
  rcases got.exchanges_split split with ⟨-, same, -⟩ | onward
  · exact absurd (same.symm.trans signals) (other context)
  · exact onward

/-- Releasing a transaction sends one abort, and only after a write. -/
theorem Releases.aborts (released : transaction.Releases events after)
    (split : Event.exchanges events = before ++ signal :: rest) :
    before = [] ∧ rest = [] ∧ transaction.mutated = true ∧
      signal.call = .commitOrAbort transaction.context.markAborted.toWire := by
  cases released with
  | finished => simp at split
  | skipped => simp at split
  | aborted active written asked =>
      rcases asked.exchanges_split split with ⟨nothing, same, ended⟩ | ⟨more, -, onward⟩
      · exact ⟨nothing, ended, written, same⟩
      · simp at onward

/-- The exchange of a write without a stated error is one that has been applied. -/
theorem applies_of_gets {mutation : Mutation} {reply : MutationReply}
    (asked : (Call.mutate mutation).Gets (.ok reply) event) (applied : reply.statedError = none)
    (events : List Event) : ∃ exchange ∈ Event.exchanges (event :: events), exchange.Applies := by
  obtain ⟨position, endpoint, rfl⟩ := asked.of_ok
  exact ⟨_, List.mem_cons_self, MutationReply.statedError_eq_none_iff.1 applied⟩

/-- How an operation that sends a signal ends the transaction. -/
structure Concludes (transaction : Transaction) (operation : Operation) (outcome : Outcome)
    (after : Transaction) (before rest : List Exchange) (context : WireContext) : Prop where
  closed : after.isFinished = true
  last : rest = []
  written : transaction.mutated = true ∨ ∃ exchange ∈ before, exchange.Applies
  sender : operation = .commit ∧ context.aborted = false ∨
    operation.GivesUp outcome ∧ context.aborted = true

/-- An operation that gives a transaction up may do so after a read or a write. -/
theorem Releases.concludes {origin : Transaction} {answer : Except CallFailure call.Reply}
    (released : transaction.Releases events after) (got : call.Gets answer event)
    (other : ∀ context, call ≠ .commitOrAbort context)
    (split : Event.exchanges (event :: events) = before ++ signal :: rest)
    (signals : signal.call = .commitOrAbort context)
    (written : transaction.mutated = true →
      origin.mutated = true ∨ ∃ exchange ∈ Event.exchanges [event], exchange.Applies)
    (abandoned : operation.GivesUp outcome) :
    origin.Concludes operation outcome after before rest context := by
  obtain ⟨more, rfl, onward⟩ := exchanges_split_of_signal got other split signals
  obtain ⟨rfl, ended, mutated, aborts⟩ := released.aborts onward
  have same := Call.commitOrAbort.inj (signals.symm.trans aborts)
  rw [List.append_nil]
  have aborted : context.aborted = true := congrArg WireContext.aborted same
  exact ⟨released.finished_after, ended, written mutated, .inr ⟨abandoned, aborted⟩⟩

/-- A call that is sent alone is the signal. -/
theorem signal_eq_of_gets {answer : Except CallFailure call.Reply} (got : call.Gets answer event)
    (alone : Event.exchanges events = [])
    (split : Event.exchanges (event :: events) = before ++ signal :: rest) :
    rest = [] ∧ signal.call = call := by
  rcases got.exchanges_split split with ⟨-, same, ended⟩ | ⟨more, -, onward⟩
  · exact ⟨ended.trans alone, same⟩
  · rw [alone] at onward
    simp at onward

/-- Whichever operation sends a signal, it ends the transaction with it. -/
theorem Performs.concludes (performed : transaction.Performs operation events outcome after)
    (unaborted : transaction.isFinished = false → transaction.context.aborted = false)
    (split : Event.exchanges events = before ++ signal :: rest)
    (signals : signal.call = .commitOrAbort context) :
    transaction.Concludes operation outcome after before rest context := by
  have silent {call : Call} {answer : Except CallFailure call.Reply} {event : Event}
      {events : List Event} (got : call.Gets answer event)
      (other : ∀ context, call ≠ .commitOrAbort context) (alone : Event.exchanges events = [])
      (split : Event.exchanges (event :: events) = before ++ signal :: rest) : False :=
    other context ((signal_eq_of_gets got alone split).2.symm.trans signals)
  have commits {answer : Except CallFailure WireContext} {event : Event} {events : List Event}
      {after : Transaction} (active : transaction.isFinished = false)
      (written : transaction.mutated = true)
      (asked : (Call.commitOrAbort transaction.context.toWire).Gets answer event)
      (alone : Event.exchanges events = []) (closed : after.isFinished = true)
      (split : Event.exchanges (event :: events) = before ++ signal :: rest) :
      transaction.Concludes .commit outcome after before rest context := by
    obtain ⟨ended, same⟩ := signal_eq_of_gets asked alone split
    have carried := Call.commitOrAbort.inj (signals.symm.trans same)
    have unmarked : context.aborted = false := by
      rw [carried]
      exact unaborted active
    exact ⟨closed, ended, .inl written, .inl ⟨rfl, unmarked⟩⟩
  cases performed with
  | queryFinished => simp at split
  | queryFailed active asked => exact (silent asked (by simp) rfl split).elim
  | queryAccepted active asked compatible => exact (silent asked (by simp) rfl split).elim
  | queryMismatched active asked clashing released =>
      exact released.concludes asked (by simp) split signals .inl ⟨_, rfl⟩
  | mutateFinished => simp at split
  | mutateReadOnly => simp at split
  | mutateFailed active writable asked refused released =>
      exact released.concludes asked (by simp) split signals .inl ⟨_, rfl⟩
  | mutateAccepted active writable asked applied compatible =>
      exact (silent asked (by simp) rfl split).elim
  | mutateMismatched active writable asked applied clashing released =>
      have written := applies_of_gets asked applied []
      exact released.concludes asked (by simp) split signals (fun _ => .inr written) ⟨_, rfl⟩
  | commitFinished => simp at split
  | commitUnwritten => simp at split
  | commitFailed active written asked refused => exact commits active written asked rfl rfl split
  | commitConfirmed active written asked compatible confirmed =>
      exact commits active written asked rfl rfl split
  | discarded released =>
      obtain ⟨rfl, ended, written, aborts⟩ := released.aborts split
      have same := Call.commitOrAbort.inj (signals.symm.trans aborts)
      have aborted : context.aborted = true := congrArg WireContext.aborted same
      exact ⟨released.finished_after, ended, .inl written, .inr ⟨trivial, aborted⟩⟩
  | bestEffortSet => simp at split
  | bestEffortRefused => simp at split

end Signals

section Life

theorem Releases.mutated_eq (released : transaction.Releases events after) :
    after.mutated = transaction.mutated := by
  cases released with
  | finished => rfl
  | skipped => rfl
  | aborted => rfl

/-- A transaction becomes mutated only by a write that a node applied. -/
theorem Performs.mutated_after (performed : transaction.Performs operation events outcome after)
    (written : after.mutated = true) :
    transaction.mutated = true ∨ ∃ exchange ∈ Event.exchanges events, exchange.Applies := by
  cases performed with
  | queryFinished => exact .inl written
  | queryFailed => exact .inl written
  | queryAccepted => exact .inl written
  | queryMismatched active asked clashing released => exact .inl (released.mutated_eq ▸ written)
  | mutateFinished => exact .inl written
  | mutateReadOnly => exact .inl written
  | mutateFailed active writable asked refused released =>
      exact .inl (released.mutated_eq ▸ written)
  | mutateAccepted active writable asked applied compatible =>
      exact .inr (applies_of_gets asked applied _)
  | mutateMismatched active writable asked applied clashing released =>
      exact .inr (applies_of_gets asked applied _)
  | commitFinished => exact .inl written
  | commitUnwritten => exact .inl written
  | commitFailed => exact .inl written
  | commitConfirmed => exact .inl written
  | discarded released => exact .inl (released.mutated_eq ▸ written)
  | bestEffortSet => exact .inl written
  | bestEffortRefused => exact .inl written

/-- What a transaction has by its history: the contents of its context, and its having written. -/
structure Stands (seed : Watermark) (transaction : Transaction) (past : List Exchange) : Prop where
  reflects : transaction.Reflects seed past
  written : transaction.mutated = true → ∃ exchange ∈ past, exchange.Applies

theorem start_stands (mode : Mode) (seed : Watermark) : Stands seed (start mode seed) [] where
  reflects := start_reflects mode seed
  written := Bool.noConfusion

/-- What stands of a transaction and its exchanges stands after its next turn. -/
theorem turn_stands {seed : Watermark} {past : List Exchange} (stands : Stands seed transaction past)
    (occasion : Occasion) :
    Stands seed (transaction.turn occasion).after
      (past ++ (transaction.turn occasion).record.exchanges) := by
  constructor
  · exact turn_reflects stands.reflects occasion
  intro written
  obtain ⟨events, performed, shown, -⟩ := transaction.turn_performs occasion
  rw [shown]
  rcases performed.mutated_after written with earlier | ⟨exchange, member, applies⟩
  · obtain ⟨exchange, member, applies⟩ := stands.written earlier
    exact ⟨exchange, List.mem_append_left _ member, applies⟩
  · exact ⟨exchange, List.mem_append_right _ member, applies⟩

variable {mode : Mode} {seed : Watermark} {occasions : List Occasion}

/-- At each moment of a life the transaction stands as its exchanges say, and its life goes on from
there. -/
theorem stands_at (moment : Moment ((start mode seed).life occasions)) :
    Stands seed moment.turn.before (Turn.sent moment.earlier) ∧
      ∃ occasion rest, moment.turn = moment.turn.before.turn occasion ∧
        moment.later = moment.turn.after.life rest :=
  life_induction (Stands seed) (fun _ _ occasion stands => turn_stands stands occasion)
    (start_stands mode seed) moment

/-- A signal is the last call of a life and follows a write; its sender shows in it. -/
theorem signal_concludes (sending : Sending ((start mode seed).life occasions)) {context : WireContext}
    (signals : sending.exchange.call = .commitOrAbort context) :
    sending.future = [] ∧ (∃ exchange ∈ sending.past, exchange.Applies) ∧
      (sending.turn.operation = .commit ∧ context.aborted = false ∨
        sending.turn.operation.GivesUp sending.turn.record.outcome ∧ context.aborted = true) := by
  obtain ⟨stands, occasion, rest, taken, onward⟩ := stands_at sending.toMoment
  obtain ⟨events, performed, shown, -⟩ := sending.turn.before.turn_performs occasion
  rw [← taken] at performed shown
  have same : sending.turn.operation = occasion.operation := by rw [taken, turn]
  have ends := performed.concludes stands.reflects.unaborted (shown.symm.trans sending.within) signals
  have last : sending.future = [] := by
    rw [Sending.future, onward, sent_life_of_finished ends.closed, ends.last, List.append_nil]
  have written : ∃ exchange ∈ sending.past, exchange.Applies := by
    unfold Sending.past
    rcases ends.written with written | ⟨exchange, member, applies⟩
    · obtain ⟨exchange, member, applies⟩ := stands.written written
      exact ⟨exchange, List.mem_append_left _ member, applies⟩
    · exact ⟨exchange, List.mem_append_right _ member, applies⟩
  rw [same]
  exact ⟨last, written, ends.sender⟩

/-- A transaction sends one signal at most, and nothing after it. The signal follows a write that a
node has applied, and it tells a commit from an abort by its sender. From the moment that the
transaction is finished, nothing comes of its operations. -/
theorem life_ends_with_one_signal (mode : Mode) (seed : Watermark) (occasions : List Occasion) :
    let turns := (start mode seed).life occasions
    (Turn.sent turns).countP Exchange.isSignal ≤ 1 ∧
      (∀ (sending : Sending turns) (context : WireContext),
        sending.exchange.call = .commitOrAbort context →
          sending.future = [] ∧
          (∃ exchange ∈ sending.past, exchange.Applies) ∧
          (context.aborted = false ↔ sending.turn.operation = .commit) ∧
          (context.aborted = true ↔ sending.turn.operation.GivesUp sending.turn.record.outcome)) ∧
      (∀ moment : Moment turns, moment.turn.after.isFinished = true →
        ∀ next ∈ moment.later, next.before.isFinished = true ∧ next.Idle) := by
  intro turns
  refine ⟨?_, ?_, ?_⟩
  · apply countP_le_one_of_last
    intro before exchange after split signals
    obtain ⟨context, carried⟩ := Exchange.isSignal_iff.1 signals
    obtain ⟨sending, -, rfl, rfl⟩ := Sending.exists_of_split split
    exact (signal_concludes sending carried).1
  · intro sending context signals
    obtain ⟨last, written, sender⟩ := signal_concludes sending signals
    rcases sender with ⟨commits, unaborted⟩ | ⟨abandons, aborted⟩
    · have kept : ¬ Operation.commit.GivesUp sending.turn.record.outcome := id
      simp [last, written, commits, unaborted, kept]
    · have uncommitted : sending.turn.operation ≠ .commit := by
        intro commits
        rw [commits] at abandons
        exact abandons
      simp [last, written, uncommitted, aborted, abandons]
  · intro moment closed next member
    obtain ⟨-, occasion, rest, -, onward⟩ := stands_at moment
    rw [onward] at member
    exact life_idle closed rest next member

/-- A commit after an applied write is the signal, and releasing the transaction adds none. -/
example :
    (Turn.sent ((start .readWrite .empty).life
      [⟨.mutate {}, .ofPool (.ofEndpoints [{}]), []⟩, ⟨.commit, .ofPool (.ofEndpoints [{}]), []⟩,
        ⟨.discard, .ofPool (.ofEndpoints [{}]), []⟩])).map Exchange.isSignal = [false, true] := by
  decide

end Life

end Transaction

end GraphClient
