import GraphClient.Proofs.Transaction.Life

namespace GraphClient

open Ledger

/-- An order that holds between each element and the later ones. -/
theorem pairwise_of_splits {Element : Type} {Related : Element → Element → Prop}
    {elements : List Element}
    (related : ∀ before first between second after,
      elements = before ++ first :: (between ++ second :: after) → Related first second) :
    elements.Pairwise Related := by
  apply List.pairwise_of_forall_sublist
  intro first second sublist
  obtain ⟨front, back, rfl, early, late⟩ := List.cons_sublist_iff.1 sublist
  obtain ⟨before, between, rfl⟩ := List.append_of_mem early
  obtain ⟨gap, after, rfl⟩ := List.append_of_mem (List.singleton_sublist.1 late)
  apply related before first (between ++ gap) second after
  simp

/-- The start timestamp that a call carries; calls outside transactions carry none. -/
def Call.startTimestamp? : Call → Option UInt64
  | query request => some request.startTimestamp
  | mutate mutation => some mutation.startTimestamp
  | commitOrAbort context => some context.startTimestamp
  | alter _ | checkVersion => none

/-- The call does what its operation asks for, with the start timestamp and, if it is a signal, the
keys of the replies that have been accepted. -/
def Call.StampedBy (replies : List WireContext) (operation : Operation) : Call → Prop
  | query request =>
    request.startTimestamp = assigned replies ∧
      operation = .query request.text request.bindings
  | mutate mutation =>
    ∃ asked, operation = .mutate asked ∧
      mutation = { asked with startTimestamp := assigned replies }
  | commitOrAbort context =>
    context.startTimestamp = assigned replies ∧ context.commitTimestamp = 0 ∧
      context.keys.Pairwise (· < ·) ∧
      ∀ key, key ∈ context.keys ↔ ∃ reply ∈ replies, key ∈ reply.keys
  | alter _ | checkVersion => False

namespace Transaction

/-- The transaction holds the start timestamp and exactly the keys of these replies. -/
structure Holds (transaction : Transaction) (replies : List WireContext) : Prop where
  startTimestamp : transaction.context.startTimestamp = assigned replies
  keys : ∀ key, key ∈ SortedSet.toList transaction.context.keys ↔
    ∃ reply ∈ replies, key ∈ reply.keys

variable {transaction : Transaction} {seed : Watermark} {past : List Exchange}

/-- A transaction that reflects its exchanges holds what the replies that it has learnt from say. -/
theorem Reflects.holds (reflects : transaction.Reflects seed past) :
    transaction.Holds (learnt past) where
  startTimestamp := reflects.startTimestamp
  keys key := by
    rw [reflects.keys, SortedSet.ofList, SortedSet.mem_toList_insertMany, List.mem_flatMap]
    constructor
    · rintro (listed | reported)
      · cases listed
      · exact reported
    · exact .inr

/-- The keys of a transaction are listed in ascending order, each once. -/
theorem keys_ascending (transaction : Transaction) :
    (SortedSet.toList transaction.context.keys).Pairwise (· < ·) :=
  (SortedSet.toList_ascending transaction.context.keys).imp fun ordered =>
    compareOfLessAndEq_eq_lt.1 ordered

variable {operation : Operation} {call : Call} {replies : List WireContext}

theorem Sends.startTimestamp (sends : transaction.Sends operation call) :
    call.startTimestamp? = some transaction.context.startTimestamp := by
  cases sends <;> rfl

/-- Every call carries what has been learnt, and leaves the rest as the caller gave it. -/
theorem Sends.stamped (sends : transaction.Sends operation call)
    (holds : transaction.Holds replies) : call.StampedBy replies operation := by
  cases sends with
  | query => exact ⟨holds.startTimestamp, rfl⟩
  | @mutate mutation =>
      have stamped := congrArg (fun start => { mutation with startTimestamp := start })
        holds.startTimestamp
      exact ⟨mutation, rfl, stamped⟩
  | commit => exact ⟨holds.startTimestamp, rfl, transaction.keys_ascending, holds.keys⟩
  | abort => exact ⟨holds.startTimestamp, rfl, transaction.keys_ascending, holds.keys⟩

variable {mode : Mode} {occasions : List Occasion}

theorem reflects_after (moment : Moment ((start mode seed).life occasions)) :
    moment.turn.after.Reflects seed (Turn.sent (moment.earlier ++ [moment.turn])) := by
  obtain ⟨reflects, occasion, taken⟩ := reflects_at moment
  have later := turn_reflects reflects occasion
  rw [← taken] at later
  rw [Turn.sent_append, Turn.sent_cons, Turn.sent_nil, List.append_nil]
  exact later

/-- Every call of a life is one that its operation may send, when nothing else has been learnt. -/
theorem sends_at (sending : Sending ((start mode seed).life occasions)) :
    sending.turn.before.Sends sending.turn.operation sending.exchange.call ∧
      sending.turn.before.Holds (learnt sending.past) := by
  obtain ⟨reflects, occasion, taken⟩ := reflects_at sending.toMoment
  obtain ⟨events, performed, shown, -⟩ := sending.turn.before.turn_performs occasion
  rw [← taken] at performed shown
  have same : sending.turn.operation = occasion.operation := by rw [taken, turn]
  have split := shown.symm.trans sending.within
  constructor
  · rw [same]
    apply performed.sends_of_exchange
    simp [split]
  · rw [Sending.past, (performed.learns reflects).learnt_before split]
    exact reflects.holds

/-- A start timestamp that has been assigned stays. -/
theorem startTimestamp_fixed (moment : Moment ((start mode seed).life occasions))
    (fixed : moment.turn.before.context.startTimestamp ≠ 0) :
    ∀ next ∈ moment.turn :: moment.later,
      next.after.context.startTimestamp = moment.turn.before.context.startTimestamp := by
  intro next member
  obtain ⟨onward, between, rfl, further⟩ := moment.exists_onward member
  rw [(reflects_at moment).1.startTimestamp] at fixed ⊢
  rw [(reflects_after onward).startTimestamp, further, List.append_assoc, Turn.sent_append,
    assigned_learnt_append fixed]

/-- The start timestamp and the keys that a transaction holds are those of the replies that it has
accepted, and once assigned the start timestamp stays. Every call carries what is held when it is
sent, so that calls carry zero up to the assignment and the same start timestamp after it. -/
theorem life_stamps_every_call (mode : Mode) (seed : Watermark) (occasions : List Occasion) :
    let turns := (start mode seed).life occasions
    (∀ moment : Moment turns,
        moment.turn.before.Holds (learnt (Turn.sent moment.earlier)) ∧
        moment.turn.after.Holds (learnt (Turn.sent (moment.earlier ++ [moment.turn]))) ∧
        (moment.turn.before.context.startTimestamp ≠ 0 →
          ∀ next ∈ moment.turn :: moment.later,
            next.after.context.startTimestamp = moment.turn.before.context.startTimestamp)) ∧
      (∀ sending : Sending turns,
        sending.exchange.call.startTimestamp? = some sending.turn.before.context.startTimestamp ∧
        sending.exchange.call.StampedBy (learnt sending.past) sending.turn.operation) ∧
      (Turn.sent turns).Pairwise fun first second =>
        first.call.startTimestamp? = some 0 ∨
          second.call.startTimestamp? = first.call.startTimestamp? := by
  intro turns
  refine ⟨?_, ?_, ?_⟩
  · intro moment
    have before := (reflects_at moment).1.holds
    have after := (reflects_after moment).holds
    exact ⟨before, after, startTimestamp_fixed moment⟩
  · intro sending
    obtain ⟨sends, holds⟩ := sends_at sending
    exact ⟨sends.startTimestamp, sends.stamped holds⟩
  · apply pairwise_of_splits
    intro before first between second after split
    obtain ⟨early, past, rfl, -⟩ := Sending.exists_of_split split
    rw [List.append_cons, ← List.append_assoc] at split
    obtain ⟨late, further, rfl, -⟩ := Sending.exists_of_split split
    obtain ⟨earlySends, earlyHolds⟩ := sends_at early
    obtain ⟨lateSends, lateHolds⟩ := sends_at late
    rw [earlySends.startTimestamp, lateSends.startTimestamp, earlyHolds.startTimestamp,
      lateHolds.startTimestamp, past, further]
    by_cases unassigned : assigned (learnt before) = 0
    · exact .inl (congrArg some unassigned)
    · rw [List.append_assoc, assigned_learnt_append unassigned]
      exact .inr rfl

/-- A write after a read carries what the read was told, whatever the caller put there. -/
example :
    (Turn.sent ((start .readWrite .empty).life
      [⟨.query "" .empty, .ofPool (.ofEndpoints [{}]),
          [{ answer := fun
              | .query _ => .ok { context := { startTimestamp := 7 } }
              | call => .ok call.emptyReply }]⟩,
        ⟨.mutate { startTimestamp := 3 }, .ofPool (.ofEndpoints [{}]), []⟩])).map
      (fun exchange => exchange.call.startTimestamp?) = [some 0, some 7] := by
  decide

end Transaction

end GraphClient
