import GraphClient.Proofs.Transaction.Learning

namespace GraphClient

open Ledger

namespace Transaction

variable {transaction after : Transaction} {events : List Event} {past : List Exchange}
  {seed shared : Watermark}

/-- A call that carries a watermark carries the one of its transaction. -/
theorem Sends.watermark {operation : Operation} {call : Call}
    (sends : transaction.Sends operation call) {carried : Watermark}
    (carries : call.watermark? = some carried) : carried = transaction.context.watermark := by
  cases sends with
  | query => exact (Option.some.inj carries).symm
  | mutate => cases carries
  | commit => exact (Option.some.inj carries).symm
  | abort => exact (Option.some.inj carries).symm

/-- The folds of an operation raise what bounds the transaction by what it accepts. -/
theorem Learns.tally (learns : transaction.Learns past events after)
    (below : transaction.context.watermark ≤ shared) :
    shared ⊔ Watermark.join (Event.folds events) =
      shared ⊔ reported (acceptedAfter past (Event.exchanges events)) := by
  cases learns with
  | nothing rejected unfolded => rw [unfolded, acceptedAfter_of_rejected rejected]; rfl
  | @report exchange reply sent reported compatible folded extended =>
      rw [folded, sent, acceptedAfter_singleton, accepted?_of_report reported, if_pos compatible,
        Option.toList_some, reported_singleton, Watermark.join_cons, Watermark.join_nil, sup_bot_eq,
        extended]
      change shared ⊔ (transaction.context.watermark ⊔ reply.watermark) = _
      rw [← sup_assoc, sup_eq_left.2 below]
  | @confirmation exchange reply sent unreported confirmed compatible folded =>
      rw [folded, sent, acceptedAfter_singleton, accepted?_of_confirmation unreported confirmed,
        if_pos compatible, Option.toList_some, reported_singleton, Watermark.join_cons,
        Watermark.join_nil, sup_bot_eq]

/-- A transaction stays below what its folds go into. -/
theorem Learns.below (learns : transaction.Learns past events after)
    (below : transaction.context.watermark ≤ shared) :
    after.context.watermark ≤ shared ⊔ Watermark.join (Event.folds events) := by
  cases learns with
  | nothing rejected unfolded kept =>
      rw [context_eq_of_kept kept]
      exact le_sup_of_le_left below
  | report sent reported compatible folded =>
      rw [folded, Watermark.join_cons, Watermark.join_nil, sup_bot_eq]
      exact le_sup_right
  | confirmation sent unreported confirmed compatible folded kept =>
      rw [kept]
      exact le_sup_of_le_left below

/-- An operation one of whose calls is refused has learnt nothing. -/
theorem Learns.nothing_of_refused (learns : transaction.Learns past events after) {position : Nat}
    {endpoint : Endpoint} {call : Call} {error : CallError}
    (member : ⟨position, endpoint, call, .error error⟩ ∈ Event.exchanges events) :
    (∀ exchange ∈ Event.exchanges events, accepted? past exchange = none) ∧
      Event.folds events = [] := by
  cases learns with
  | nothing rejected unfolded => exact ⟨rejected, unfolded⟩
  | report sent reported =>
      rw [sent] at member
      cases List.mem_singleton.1 member
      cases call <;> cases reported
  | confirmation sent unreported confirmed =>
      rw [sent] at member
      cases List.mem_singleton.1 member
      cases call <;> cases confirmed

/-- What is known of an operation that waits for the answer to a call. -/
structure Waits (transaction : Transaction) (operation : Operation) (past : List Exchange)
    (events : List Event) (call : Call) : Prop where
  sends : transaction.Sends operation call
  rejected : ∀ exchange ∈ Event.exchanges events, accepted? past exchange = none
  unfolded : Event.folds events = []

/-- Had the call been refused, the operation would have learnt nothing at its end; so it has learnt
nothing yet. -/
theorem waits_of_leads {operation : Operation} {message : Call}
    {resume : Except CallFailure message.Reply → Plan (Outcome × Transaction)}
    (leads : (transaction.perform operation).Leads events (.call message resume))
    (reflects : transaction.Reflects seed past) :
    transaction.Waits operation past events message := by
  -- A course on which the node refuses the call completes the events, whatever comes in truth.
  have refused : message.Gets (.error (.refused default))
      (.exchanged ⟨0, default, message, .error default⟩) := .exchanged _ _ (.error default)
  obtain ⟨rest, ⟨outcome, after⟩, yields⟩ := (resume (.error (.refused default))).exists_yields
  have performed := performs_of_yields (leads.append (.call refused yields))
  obtain ⟨rejected, unfolded⟩ := (performed.learns reflects).nothing_of_refused
    (by rw [Event.exchanges_append]; exact List.mem_append_right _ List.mem_cons_self)
  rw [Event.exchanges_append] at rejected
  rw [Event.folds_append, List.append_eq_nil_iff] at unfolded
  refine ⟨?_, fun exchange member => rejected exchange (List.mem_append_left _ member), unfolded.1⟩
  exact performed.sends (List.mem_append_right _ List.mem_cons_self) refused.call?_eq

end Transaction

end GraphClient
