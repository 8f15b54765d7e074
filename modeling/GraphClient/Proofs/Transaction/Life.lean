import Mathlib.Data.List.Induction
import GraphClient.Proofs.Transaction.Learning

namespace GraphClient

/-- When an operation is called for: the client that it finds and the deliveries of its calls. -/
structure Occasion where
  operation : Operation
  client : Client
  inbox : List Delivery

/-- One operation on a transaction, with the transaction and the client before and after it. -/
structure Turn where
  operation : Operation
  before : Transaction
  after : Transaction
  clientBefore : Client
  clientAfter : Client
  record : Record

namespace Turn

/-- The calls that were sent in these turns, in order, with their answers. -/
def sent (turns : List Turn) : List Exchange :=
  turns.flatMap fun turn => turn.record.exchanges

@[simp] theorem sent_nil : sent [] = [] :=
  rfl

@[simp] theorem sent_cons (turn : Turn) (rest : List Turn) :
    sent (turn :: rest) = turn.record.exchanges ++ sent rest :=
  rfl

@[simp] theorem sent_append (first second : List Turn) :
    sent (first ++ second) = sent first ++ sent second :=
  List.flatMap_append

end Turn

/-- A moment is when one of these turns is taken. -/
structure Moment (turns : List Turn) where
  earlier : List Turn
  turn : Turn
  later : List Turn
  split : turns = earlier ++ turn :: later

/-- A turn that comes at this moment or later has a moment of its own. -/
theorem Moment.exists_onward {turns : List Turn} (moment : Moment turns) {next : Turn}
    (member : next ∈ moment.turn :: moment.later) :
    ∃ (onward : Moment turns) (between : List Turn),
      onward.turn = next ∧ onward.earlier = moment.earlier ++ between := by
  obtain ⟨between, rest, split⟩ := List.append_of_mem member
  have onward := moment.split
  rw [split, ← List.append_assoc] at onward
  exact ⟨⟨moment.earlier ++ between, next, rest, onward⟩, between, rfl, rfl⟩

/-- A sending is the moment at which one call of these turns is sent. -/
structure Sending (turns : List Turn) extends Moment turns where
  before : List Exchange
  exchange : Exchange
  after : List Exchange
  within : turn.record.exchanges = before ++ exchange :: after

namespace Sending

variable {turns : List Turn}

/-- All that was sent before. -/
def past (sending : Sending turns) : List Exchange :=
  Turn.sent sending.earlier ++ sending.before

/-- All that is sent afterwards. -/
def future (sending : Sending turns) : List Exchange :=
  sending.after ++ Turn.sent sending.later

/-- Every call among those sent was sent at some moment. -/
theorem exists_of_split {before after : List Exchange} {exchange : Exchange}
    (split : Turn.sent turns = before ++ exchange :: after) :
    ∃ sending : Sending turns,
      sending.past = before ∧ sending.exchange = exchange ∧ sending.future = after := by
  induction turns generalizing before with
  | nil => simp at split
  | cons turn rest inductionHypothesis =>
      rw [Turn.sent_cons, List.append_eq_append_iff] at split
      rcases split with ⟨more, rfl, onward⟩ | ⟨more, own, same⟩
      · obtain ⟨sending, rfl, rfl, rfl⟩ := inductionHypothesis onward
        have longer : turn :: rest = turn :: sending.earlier ++ sending.turn :: sending.later :=
          congrArg (turn :: ·) sending.split
        refine ⟨{ sending with earlier := turn :: sending.earlier, split := longer }, ?_, rfl, rfl⟩
        simp [past]
      · -- The call is one of this turn unless the split falls at the end of the turn.
        cases more with
        | nil =>
            obtain ⟨sending, nothing, rfl, rfl⟩ := @inductionHypothesis [] same.symm
            have longer : turn :: rest = turn :: sending.earlier ++ sending.turn :: sending.later :=
              congrArg (turn :: ·) sending.split
            rw [List.append_nil] at own
            refine ⟨{ sending with earlier := turn :: sending.earlier, split := longer }, ?_, rfl,
              rfl⟩
            unfold past at nothing ⊢
            rw [Turn.sent_cons, List.append_assoc, nothing, List.append_nil, own]
        | cons first more =>
            rw [List.cons_append, List.cons.injEq] at same
            obtain ⟨rfl, rfl⟩ := same
            exact ⟨⟨⟨[], turn, rest, rfl⟩, before, exchange, more, own⟩, rfl, rfl, rfl⟩

end Sending

namespace Transaction

/-- Performs an operation on the occasion that calls for it. -/
def turn (transaction : Transaction) (occasion : Occasion) : Turn :=
  let ((outcome, after), surroundings) :=
    (transaction.perform occasion.operation).run
      { client := occasion.client, traffic := { inbox := occasion.inbox } }
  { operation := occasion.operation
    before := transaction
    after := after
    clientBefore := occasion.client
    clientAfter := surroundings.client
    record := surroundings.record outcome }

/-- Performs the operations in order. -/
def life (transaction : Transaction) : List Occasion → List Turn
  | [] => []
  | occasion :: rest =>
    let turn := transaction.turn occasion
    turn :: turn.after.life rest

/-- The transaction as these occasions leave it. -/
def through (transaction : Transaction) : List Occasion → Transaction
  | [] => transaction
  | occasion :: rest => (transaction.turn occasion).after.through rest

variable {transaction : Transaction} {occasions : List Occasion}

theorem life_append (transaction : Transaction) (earlier later : List Occasion) :
    transaction.life (earlier ++ later) =
      transaction.life earlier ++ (transaction.through earlier).life later := by
  induction earlier generalizing transaction with
  | nil => rfl
  | cons occasion rest inductionHypothesis =>
      rw [List.cons_append, life, life, through, inductionHypothesis, List.cons_append]

theorem through_append (transaction : Transaction) (earlier later : List Occasion) :
    transaction.through (earlier ++ later) = (transaction.through earlier).through later := by
  induction earlier generalizing transaction with
  | nil => rfl
  | cons occasion rest inductionHypothesis =>
      rw [List.cons_append, through, through, inductionHypothesis]

/-- A turn goes the course of its operation, and its record and the client show the events. -/
theorem turn_performs (transaction : Transaction) (occasion : Occasion) :
    ∃ events, transaction.Performs occasion.operation events
        (transaction.turn occasion).record.outcome (transaction.turn occasion).after ∧
      (transaction.turn occasion).record.exchanges = Event.exchanges events ∧
      (transaction.turn occasion).record.folds = Event.folds events ∧
      (transaction.turn occasion).clientAfter.watermark =
        occasion.client.watermark ⊔ Watermark.join (Event.folds events) := by
  obtain ⟨events, yields, shown⟩ := (transaction.perform occasion.operation).run_yields
    { client := occasion.client, traffic := { inbox := occasion.inbox } }
  have performed := performs_of_yields yields
  exact ⟨events, performed, shown.exchanges, shown.folds, shown.shared⟩

/-- A transaction that reflects its exchanges goes on to do so. -/
theorem turn_reflects {seed : Watermark} {past : List Exchange}
    (reflects : transaction.Reflects seed past) (occasion : Occasion) :
    (transaction.turn occasion).after.Reflects seed
      (past ++ (transaction.turn occasion).record.exchanges) := by
  obtain ⟨events, performed, shown, -⟩ := transaction.turn_performs occasion
  rw [shown]
  exact (performed.learns reflects).reflects reflects

/-- What holds at the start of a life and is kept by every turn holds at its end, with all its turns
in the past. -/
theorem through_induction (Invariant : Transaction → List Turn → Prop)
    (kept : ∀ transaction past occasion, Invariant transaction past →
      Invariant (transaction.turn occasion).after (past ++ [transaction.turn occasion]))
    (initial : Invariant transaction []) (occasions : List Occasion) :
    Invariant (transaction.through occasions) (transaction.life occasions) := by
  induction occasions using List.reverseRecOn with
  | nil => exact initial
  | append_singleton earlier occasion inductionHypothesis =>
      rw [through_append, life_append]
      exact kept _ _ occasion inductionHypothesis

/-- At each moment of a life, some of its occasions have come and the next one is there. -/
theorem exists_occasions_at (moment : Moment (transaction.life occasions)) :
    ∃ earlier occasion later, moment.earlier = transaction.life earlier ∧
      moment.turn = (transaction.through earlier).turn occasion ∧
      moment.later = moment.turn.after.life later := by
  obtain ⟨earlier, turn, later, split⟩ := moment
  induction earlier generalizing transaction occasions with
  | nil =>
      cases occasions with
      | nil => cases split
      | cons occasion rest =>
          rw [life, List.nil_append, List.cons.injEq] at split
          obtain ⟨rfl, rfl⟩ := split
          exact ⟨[], occasion, rest, rfl, rfl, rfl⟩
  | cons first earlier inductionHypothesis =>
      cases occasions with
      | nil => cases split
      | cons occasion rest =>
          rw [life, List.cons_append, List.cons.injEq] at split
          obtain ⟨rfl, onward⟩ := split
          obtain ⟨before, next, after, past, taken, future⟩ := inductionHypothesis onward
          exact ⟨occasion :: before, next, after, congrArg _ past, taken, future⟩

/-- What holds at the start of a life and is kept by every turn holds at each of its moments. -/
theorem life_induction (Invariant : Transaction → List Exchange → Prop)
    (kept : ∀ transaction past occasion, Invariant transaction past →
      Invariant (transaction.turn occasion).after
        (past ++ (transaction.turn occasion).record.exchanges))
    (initial : Invariant transaction []) (moment : Moment (transaction.life occasions)) :
    Invariant moment.turn.before (Turn.sent moment.earlier) ∧
      ∃ occasion rest, moment.turn = moment.turn.before.turn occasion ∧
        moment.later = moment.turn.after.life rest := by
  obtain ⟨earlier, occasion, later, past, taken, future⟩ := exists_occasions_at moment
  have before : moment.turn.before = transaction.through earlier := by rw [taken, turn]
  have holds := through_induction (fun transaction turns => Invariant transaction (Turn.sent turns))
    (fun transaction turns occasion held => by
      rw [Turn.sent_append, Turn.sent_cons, Turn.sent_nil, List.append_nil]
      exact kept transaction (Turn.sent turns) occasion held) initial earlier
  rw [← before, ← past] at holds
  rw [← before] at taken
  exact ⟨holds, occasion, later, taken, future⟩

/-- At each moment of its life a transaction reflects what has been exchanged in it. -/
theorem reflects_at {mode : Mode} {seed : Watermark}
    (moment : Moment ((start mode seed).life occasions)) :
    moment.turn.before.Reflects seed (Turn.sent moment.earlier) ∧
      ∃ occasion, moment.turn = moment.turn.before.turn occasion := by
  obtain ⟨reflects, occasion, rest, taken, -⟩ :=
    life_induction (fun transaction past => transaction.Reflects seed past)
      (fun _ _ occasion reflects => turn_reflects reflects occasion) (start_reflects mode seed) moment
  exact ⟨reflects, occasion, taken⟩

end Transaction

/-- An operation in a session is a turn of its transaction. -/
theorem Session.operate_eq_turn {session : Session} {name : String} {transaction : Transaction}
    (held : session.transaction? name = some transaction) (inbox : List Delivery)
    (operation : Operation) :
    session.operate inbox name operation =
      let turn := transaction.turn ⟨operation, session.client, inbox⟩
      (turn.record, { session with
        client := turn.clientAfter
        transactions := session.transactions.insert name turn.after }) := by
  rw [operate, held]
  rfl

end GraphClient
