import GraphClient.Proofs.Transaction.Life

namespace GraphClient

open Ledger

namespace Ledger

/-- What is passed on for the reply to an exchange after those of the past, if it is accepted. -/
def traced? (seed : Watermark) (past : List Exchange) (exchange : Exchange) : Option Watermark :=
  (accepted? past exchange).map fun reply =>
    if exchange.report?.isSome then seed ⊔ reported (learnt past ++ [reply]) else reply.watermark

/-- What is passed on in the course of exchanges after those of the past. -/
def tracedAfter (seed : Watermark) (past : List Exchange) : List Exchange → List Watermark
  | [] => []
  | exchange :: rest =>
    (traced? seed past exchange).toList ++ tracedAfter seed (past ++ [exchange]) rest

variable {seed : Watermark} {past : List Exchange} {exchange : Exchange} {reply : WireContext}

/-- An accepted report passes on all that has been seen, the seed included. -/
theorem traced?_of_report (accepted : accepted? past exchange = some reply)
    (reported : exchange.report? = some reply) :
    traced? seed past exchange = some (seed ⊔ Ledger.reported (learnt past ++ [reply])) := by
  rw [traced?, accepted, reported]
  rfl

/-- An accepted confirmation passes on the watermark of its reply alone. -/
theorem traced?_of_confirmation (accepted : accepted? past exchange = some reply)
    (unreported : exchange.report? = none) : traced? seed past exchange = some reply.watermark := by
  rw [traced?, accepted, unreported]
  rfl

theorem tracedAfter_singleton (seed : Watermark) (past : List Exchange) (exchange : Exchange) :
    tracedAfter seed past [exchange] = (traced? seed past exchange).toList := by
  rw [tracedAfter, tracedAfter, List.append_nil]

theorem tracedAfter_append (seed : Watermark) (past first second : List Exchange) :
    tracedAfter seed past (first ++ second) =
      tracedAfter seed past first ++ tracedAfter seed (past ++ first) second := by
  induction first generalizing past with
  | nil => simp [tracedAfter]
  | cons exchange rest inductionHypothesis =>
      simp [tracedAfter, inductionHypothesis, List.append_assoc]

/-- One watermark is passed on for each reply that is accepted. -/
theorem length_tracedAfter (seed : Watermark) (past exchanges : List Exchange) :
    (tracedAfter seed past exchanges).length = (acceptedAfter past exchanges).length := by
  induction exchanges generalizing past with
  | nil => rfl
  | cons exchange rest inductionHypothesis =>
      rw [tracedAfter, acceptedAfter, List.length_append, List.length_append, inductionHypothesis,
        traced?]
      cases accepted? past exchange <;> rfl

end Ledger

namespace Turn

/-- The watermarks that were folded in these turns, in order. -/
def folded (turns : List Turn) : List Watermark :=
  turns.flatMap fun turn => turn.record.folds

/-- What a turn after the exchanges of the past passes on to the sink. -/
inductive Traces (seed : Watermark) (past : List Exchange) (turn : Turn) : Prop where
  | nothing (rejected : acceptedAfter past turn.record.exchanges = [])
      (unfolded : turn.record.folds = [])
      (kept : turn.after.context.watermark = turn.before.context.watermark)
  | report {exchange : Exchange} {reply : WireContext}
      (asked : (∃ text bindings, turn.operation = .query text bindings) ∨
        ∃ mutation, turn.operation = .mutate mutation)
      (sent : turn.record.exchanges = [exchange]) (reported : exchange.report? = some reply)
      (accepted : accepted? past exchange = some reply)
      (folded : turn.record.folds = [turn.after.context.watermark])
      (seen : turn.after.context.watermark = seed ⊔ Ledger.reported (learnt past ++ [reply]))
  | confirmation {exchange : Exchange} {reply : WireContext} (asked : turn.operation = .commit)
      (sent : turn.record.exchanges = [exchange]) (unreported : exchange.report? = none)
      (confirmed : exchange.confirmation? = some reply)
      (accepted : accepted? past exchange = some reply)
      (folded : turn.record.folds = [reply.watermark])
      (kept : turn.after.context.watermark = turn.before.context.watermark)

/-- What a turn folds is the trace of its exchanges. -/
theorem Traces.folds_eq {seed : Watermark} {past : List Exchange} {turn : Turn}
    (traces : turn.Traces seed past) :
    turn.record.folds = tracedAfter seed past turn.record.exchanges := by
  cases traces with
  | nothing rejected unfolded =>
      have length := length_tracedAfter seed past turn.record.exchanges
      rw [rejected, List.length_nil, List.length_eq_zero_iff] at length
      rw [unfolded, length]
  | report asked sent reported accepted folded seen =>
      rw [folded, sent, tracedAfter_singleton, traced?_of_report accepted reported, seen]
      rfl
  | confirmation asked sent unreported confirmed accepted folded =>
      rw [folded, sent, tracedAfter_singleton, traced?_of_confirmation accepted unreported]
      rfl

end Turn

namespace Transaction

variable {transaction : Transaction} {operation : Operation} {exchange : Exchange}
  {reply : WireContext}

/-- Only the calls of reads and writes have reports for an answer. -/
theorem Sends.asked_of_report (sends : transaction.Sends operation exchange.call)
    (reported : exchange.report? = some reply) :
    (∃ text bindings, operation = .query text bindings) ∨
      ∃ mutation, operation = .mutate mutation := by
  obtain ⟨position, endpoint, call, answer⟩ := exchange
  cases sends with
  | query => exact .inl ⟨_, _, rfl⟩
  | mutate => exact .inr ⟨_, rfl⟩
  | commit => cases reported
  | abort => cases reported

/-- Only the call of a commit is answered by a confirmation; the answer to an abort is none. -/
theorem Sends.asked_of_confirmation (sends : transaction.Sends operation exchange.call)
    (confirmed : exchange.confirmation? = some reply) : operation = .commit := by
  obtain ⟨position, endpoint, call, answer⟩ := exchange
  cases sends with
  | query => cases confirmed
  | mutate => cases confirmed
  | commit => rfl
  | abort =>
      cases answer with
      | error error => cases confirmed
      | ok reply =>
          rw [Exchange.confirmation?_of_not_confirmed fun both => Bool.noConfusion both.1]
            at confirmed
          cases confirmed

/-- A turn passes on what its transaction accepts, once it has been taken in. -/
theorem turn_traces {seed : Watermark} {past : List Exchange}
    (reflects : transaction.Reflects seed past) (occasion : Occasion) :
    (transaction.turn occasion).Traces seed past := by
  obtain ⟨events, performed, shown, folds, -⟩ := transaction.turn_performs occasion
  have later := (turn_reflects reflects occasion).watermark
  have sends {exchange : Exchange} (sent : Event.exchanges events = [exchange]) :
      transaction.Sends occasion.operation exchange.call :=
    performed.sends_of_exchange (sent ▸ List.mem_singleton_self exchange)
  cases performed.learns reflects with
  | nothing rejected unfolded kept =>
      refine .nothing (shown ▸ acceptedAfter_of_rejected rejected) (folds.trans unfolded) ?_
      rw [context_eq_of_kept kept]
      rfl
  | @report exchange reply sent reported compatible folded =>
      have accepted : accepted? past exchange = some reply :=
        (accepted?_of_report reported).trans (if_pos compatible)
      refine .report ((sends sent).asked_of_report reported) (shown.trans sent) reported accepted
        (folds.trans folded) ?_
      rw [later, shown, sent, learnt_of_report reported compatible]
  | @confirmation exchange reply sent unreported confirmed compatible folded kept =>
      have accepted : accepted? past exchange = some reply :=
        (accepted?_of_confirmation unreported confirmed).trans (if_pos compatible)
      exact .confirmation ((sends sent).asked_of_confirmation confirmed) (shown.trans sent)
        unreported confirmed accepted (folds.trans folded)
        (congrArg TransactionContext.watermark kept)

/-- The trace of a life is that of its exchanges. -/
theorem folded_life {seed : Watermark} {past : List Exchange}
    (reflects : transaction.Reflects seed past) (occasions : List Occasion) :
    Turn.folded (transaction.life occasions) =
      tracedAfter seed past (Turn.sent (transaction.life occasions)) := by
  induction occasions generalizing transaction past with
  | nil => rfl
  | cons occasion rest inductionHypothesis =>
      have first := (turn_traces reflects occasion).folds_eq
      have onward := inductionHypothesis (turn_reflects reflects occasion)
      rw [life, Turn.sent_cons, tracedAfter_append, ← first, ← onward]
      rfl

/-- A transaction passes on one watermark for each reply that it accepts, in the order in which it
accepts them. For the reply to a read or a write it is the seed together with all reports accepted so
far, which is then the watermark of the transaction; for the reply to a commit it is that of the reply,
and the transaction keeps its own. Nothing else leaves a trace. -/
theorem life_traces_every_acceptance (mode : Mode) (seed : Watermark) (occasions : List Occasion) :
    let turns := (start mode seed).life occasions
    Turn.folded turns = tracedAfter seed [] (Turn.sent turns) ∧
      (Turn.folded turns).length = (acceptedAfter [] (Turn.sent turns)).length ∧
      ∀ moment : Moment turns, moment.turn.Traces seed (Turn.sent moment.earlier) := by
  intro turns
  have trace := folded_life (start_reflects mode seed) occasions
  refine ⟨trace, ?_, fun moment => ?_⟩
  · rw [trace, length_tracedAfter]
  · obtain ⟨reflects, occasion, taken⟩ := reflects_at moment
    rw [taken]
    exact turn_traces reflects occasion

/-- After a write the seed is passed on with what the write reports, after the commit its own reply. -/
example :
    Turn.folded ((start .readWrite (.ofList [(1, 5)])).life
      [⟨.mutate {}, .ofPool (.ofEndpoints [{}]),
          [{ answer := fun
              | .mutate _ => .ok { context := { watermark := .ofList [(2, 3)] } }
              | call => .ok call.emptyReply }]⟩,
        ⟨.commit, .ofPool (.ofEndpoints [{}]),
          [{ answer := fun
              | .commitOrAbort _ => .ok { watermark := .ofList [(1, 9)] }
              | call => .ok call.emptyReply }]⟩]) =
      [.ofList [(1, 5), (2, 3)], .ofList [(1, 9)]] := by
  decide

end Transaction

end GraphClient
