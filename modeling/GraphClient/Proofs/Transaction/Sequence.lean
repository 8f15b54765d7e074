import GraphClient.Proofs.Transaction.Tally

namespace GraphClient

open Ledger

namespace Transaction

/-- Performs operations in order, and lists their outcomes. -/
def performAll (transaction : Transaction) : List Operation → Plan (List Outcome × Transaction)
  | [] => return ([], transaction)
  | operation :: rest => do
    let (outcome, after) ← transaction.perform operation
    let (outcomes, last) ← after.performAll rest
    return (outcome :: outcomes, last)

/-- Performs further operations after one that has already been started. -/
def followedBy (plan : Plan (Outcome × Transaction)) (operations : List Operation) :
    Plan (List Outcome × Transaction) := do
  let (outcome, after) ← plan
  let (outcomes, last) ← after.performAll operations
  return (outcome :: outcomes, last)

theorem performAll_cons (transaction : Transaction) (operation : Operation)
    (rest : List Operation) :
    transaction.performAll (operation :: rest) =
      followedBy (transaction.perform operation) rest :=
  rfl

/-- What a sequence yields splits into what its first plan yields and what the operations after it
do. -/
theorem yields_followedBy {plan : Plan (Outcome × Transaction)} {operations : List Operation}
    {events : List Event} {result : List Outcome × Transaction}
    (yields : (followedBy plan operations).Yields events result) :
    ∃ before rest outcome outcomes middle, events = before ++ rest ∧
      plan.Yields before (outcome, middle) ∧
      (middle.performAll operations).Yields rest (outcomes, result.2) := by
  change (plan.bind fun first => (first.2.performAll operations).bind fun others =>
    .done (first.1 :: others.1, others.2)).Yields events result at yields
  obtain ⟨before, rest, ⟨outcome, middle⟩, rfl, first, onward⟩ := Plan.yields_bind.1 yields
  obtain ⟨later, nothing, ⟨outcomes, last⟩, rfl, others, ended⟩ := Plan.yields_bind.1 onward
  obtain ⟨rfl, rfl⟩ := Plan.yields_done.1 ended
  exact ⟨before, later, outcome, outcomes, middle, by rw [List.append_nil], first, others⟩

variable {transaction : Transaction} {operations : List Operation} {events : List Event}
  {result : List Outcome × Transaction} {seed shared : Watermark} {past : List Exchange}

/-- The folds of a sequence of operations raise what bounds the transaction by what they accept. -/
theorem performAll_tally (yields : (transaction.performAll operations).Yields events result)
    (reflects : transaction.Reflects seed past) (below : transaction.context.watermark ≤ shared) :
    shared ⊔ Watermark.join (Event.folds events) =
      shared ⊔ reported (acceptedAfter past (Event.exchanges events)) := by
  induction operations generalizing transaction events past shared result with
  | nil =>
      obtain ⟨rfl, -⟩ := Plan.yields_done.1 yields
      rfl
  | cons operation rest inductionHypothesis =>
      rw [performAll_cons] at yields
      obtain ⟨before, later, outcome, outcomes, middle, rfl, first, others⟩ :=
        yields_followedBy yields
      have learns := (performs_of_yields first).learns reflects
      have onward := inductionHypothesis others (learns.reflects reflects) (learns.below below)
      rw [Event.folds_append, Watermark.join_append, ← sup_assoc, onward, learns.tally below,
        Event.exchanges_append, acceptedAfter_append, reported_append, sup_assoc]

end Transaction

end GraphClient
