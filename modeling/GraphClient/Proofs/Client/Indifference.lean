import Mathlib.Data.List.Forall2
import GraphClient.Proofs.Client.StepPlan
import GraphClient.Proofs.Transaction.Attempt

namespace GraphClient

/-- The phases differ at most in what became of the abort. -/
inductive Phase.Alike : Phase → Phase → Prop where
  | same (phase : Phase) : Alike phase phase
  | released (first second : Cleanup) : Alike (.released first) (.released second)

/-- The transactions differ at most in the record of their cleanup. -/
structure Transaction.Alike (first second : Transaction) : Prop where
  context : first.context = second.context
  mode : first.mode = second.mode
  mutated : first.mutated = second.mutated
  phase : first.phase.Alike second.phase

/-- The exchanges differ at most in what was answered to an abort. -/
inductive Exchange.Alike : Exchange → Exchange → Prop where
  | same (exchange : Exchange) : Alike exchange exchange
  | abort (position : Nat) (endpoint : Endpoint) (call : Call) (asks : call.isAbort = true)
      (first second : Except CallError call.Reply) :
      Alike ⟨position, endpoint, call, first⟩ ⟨position, endpoint, call, second⟩

/-- Of two lists of deliveries, the second one answers these calls like the first one, unless they are
aborts, and goes on like the first one. -/
def Delivery.Agree : List Call → List Delivery → List Delivery → Prop
  | [], first, second => first = second
  | call :: rest, first, second =>
    (first.headD {}).draw = (second.headD {}).draw ∧
      (call.isAbort = false → first.headD {} = second.headD {}) ∧
      Agree rest first.tail second.tail

/-- Deliveries that agree draw the same endpoint for the next call. -/
theorem Delivery.Agree.draw_eq {calls : List Call} {first second : List Delivery}
    (agree : Agree calls first second) : (first.headD {}).draw = (second.headD {}).draw := by
  cases calls with
  | nil =>
      change first = second at agree
      rw [agree]
  | cons call rest => exact agree.1

theorem Delivery.agree_refl (calls : List Call) (inbox : List Delivery) : Agree calls inbox inbox := by
  induction calls generalizing inbox with
  | nil => rfl
  | cons call rest inductionHypothesis =>
      exact ⟨rfl, fun _ => rfl, inductionHypothesis inbox.tail⟩

/-- The calls that were sent, in order. -/
def Record.calls (record : Record) : List Call :=
  record.exchanges.map fun exchange => exchange.call

/-- The records differ at most in what was answered to aborts. -/
structure Record.Alike (first second : Record) : Prop where
  outcome : first.outcome = second.outcome
  exchanges : List.Forall₂ Exchange.Alike first.exchanges second.exchanges
  folds : first.folds = second.folds
  unused : first.unused = second.unused

/-- The surroundings differ at most in the answers to aborts: those that were given, and those that the
deliveries still hold for the exchanges to come. -/
structure Surroundings.Alike (first second : Surroundings) (coming : List Exchange) : Prop where
  client : first.client = second.client
  exchanges : List.Forall₂ Exchange.Alike first.traffic.exchanges second.traffic.exchanges
  folds : first.folds = second.folds
  inbox : Delivery.Agree (coming.map fun exchange => exchange.call) first.traffic.inbox
    second.traffic.inbox

namespace Plan

/-- The plans do the same whatever is answered to aborts, and end with results that are alike. -/
inductive Alike {Result : Type} (same : Result → Result → Prop) : Plan Result → Plan Result → Prop where
  | done {first second : Result} (ended : same first second) : Alike same (done first) (done second)
  | call (message : Call) {first second : Except CallFailure message.Reply → Plan Result}
      (onward : ∀ answer other, answer = other ∨ message.isAbort = true →
        Alike same (first answer) (second other)) :
      Alike same (call message first) (call message second)
  | fold (update : Watermark) {first second : Plan Result} (onward : Alike same first second) :
      Alike same (fold update first) (fold update second)

variable {First Second : Type} {same : First → First → Prop} {also : Second → Second → Prop}

/-- Plans that are alike go on alike if they go on from alike results. -/
theorem Alike.bind {first second : Plan First} {next last : First → Plan Second}
    (alike : first.Alike same second)
    (onward : ∀ result other, same result other → (next result).Alike also (last other)) :
    (first.bind next).Alike also (second.bind last) := by
  induction alike with
  | done ended => exact onward _ _ ended
  | call message _ inductionHypothesis =>
      exact .call message fun answer other heard => inductionHypothesis answer other heard
  | fold update _ inductionHypothesis => exact .fold update inductionHypothesis

/-- A call that is no abort gets the same answer both times. -/
theorem alike_call {message : Call} (other : message.isAbort = false)
    {first second : Except CallFailure message.Reply → Plan First}
    (onward : ∀ answer, (first answer).Alike same (second answer)) :
    (call message first).Alike same (call message second) := by
  refine .call message ?_
  rintro answer _ (rfl | asks)
  · exact onward answer
  · rw [other] at asks
    cases asks

end Plan

section Run

variable {first second : Surroundings}

/-- What comes of a call in surroundings that are alike. -/
theorem Surroundings.Alike.exchange {coming : List Exchange} (alike : first.Alike second coming)
    (message : Call) {shown : List Exchange}
    (grown : (first.exchange message).2.traffic.exchanges ++ shown =
      first.traffic.exchanges ++ coming) :
    ((first.exchange message).1 = (second.exchange message).1 ∨ message.isAbort = true) ∧
      (first.exchange message).2.Alike (second.exchange message).2 shown := by
  obtain ⟨client, ⟨inbox, exchanges⟩, folds⟩ := first
  obtain ⟨_, ⟨others, seen⟩, _⟩ := second
  obtain ⟨rfl, exchanged, rfl, agree⟩ := alike
  have draw := agree.draw_eq
  dsimp only at draw exchanged grown agree
  simp only [Surroundings.exchange, Pool.exchange] at grown ⊢
  rw [← draw]
  generalize client.pool.pick (inbox.headD {}).draw = picked at grown ⊢
  obtain ⟨choice, pool⟩ := picked
  cases choice with
  | none =>
      rw [List.append_right_inj] at grown
      rw [grown]
      exact ⟨.inl rfl, ⟨rfl, exchanged, rfl, agree⟩⟩
  | some chosen =>
      dsimp only at grown ⊢
      rw [List.append_assoc, List.append_right_inj, List.singleton_append] at grown
      rw [← grown] at agree
      obtain ⟨-, heard, onward⟩ := agree
      cases asks : message.isAbort with
      | true =>
          have alike : Exchange.Alike _ _ := Exchange.Alike.abort chosen.1 chosen.2 message asks
            ((inbox.headD {}).answerWithin pool.deadline message)
            ((others.headD {}).answerWithin pool.deadline message)
          exact ⟨.inr rfl, ⟨rfl, List.rel_append exchanged (.cons alike .nil), rfl, onward⟩⟩
      | false =>
          rw [heard asks]
          exact ⟨.inl rfl, ⟨rfl, List.rel_append exchanged (.cons (.same _) .nil), rfl, onward⟩⟩

/-- Plans that are alike come to the same in surroundings that are alike. -/
theorem Plan.Alike.run {Result : Type} {same : Result → Result → Prop} {plan other : Plan Result}
    (alike : plan.Alike same other) {coming : List Exchange}
    (surrounded : first.Alike second coming)
    (grown : (plan.run first).2.traffic.exchanges = first.traffic.exchanges ++ coming) :
    same (plan.run first).1 (other.run second).1 ∧
      (plan.run first).2.Alike (other.run second).2 [] := by
  induction alike generalizing first second coming with
  | done ended =>
      rw [run_done, List.self_eq_append_right] at grown
      rw [grown] at surrounded
      exact ⟨ended, surrounded⟩
  | @call message resume resumed onward inductionHypothesis =>
      obtain ⟨events, -, shown⟩ :=
        (resume (first.exchange message).1).run_yields (first.exchange message).2
      rw [run_call] at grown ⊢
      rw [run_call]
      have onward := shown.exchanges
      obtain ⟨heard, after⟩ := surrounded.exchange message (onward.symm.trans grown)
      exact inductionHypothesis _ _ heard after onward
  | fold update onward inductionHypothesis =>
      obtain ⟨client, exchanges, folds, inbox⟩ := surrounded
      have folded : (first.fold update).Alike (second.fold update) coming := by
        refine ⟨?_, exchanges, ?_, inbox⟩
        · rw [Surroundings.fold, Surroundings.fold, client]
        · rw [Surroundings.fold, Surroundings.fold, folds]
      exact inductionHypothesis folded grown

end Run

namespace Transaction

variable {transaction first second : Transaction}

theorem alike_refl (transaction : Transaction) : transaction.Alike transaction :=
  ⟨rfl, rfl, rfl, .same _⟩

/-- Of transactions that are alike both are finished or none is. -/
theorem Alike.isFinished_eq (alike : first.Alike second) : first.isFinished = second.isFinished := by
  obtain ⟨-, -, -, phase⟩ := alike
  unfold isFinished
  generalize first.phase = before at phase
  generalize second.phase = after at phase
  cases phase <;> rfl

/-- There is no record of a cleanup in which active transactions could differ. -/
theorem Alike.eq_of_active (alike : first.Alike second) (active : first.isFinished = false) :
    first = second := by
  obtain ⟨context, mode, mutated, phase⟩ := first
  obtain ⟨_, _, _, other⟩ := second
  obtain ⟨rfl, rfl, rfl, alike⟩ := alike
  cases alike with
  | same => rfl
  | released => cases active

/-- Whatever is answered to the abort, only the record of the cleanup tells of it. -/
theorem discard_alike (alike : first.Alike second) :
    first.discard.Alike Transaction.Alike second.discard := by
  cases closed : first.isFinished with
  | true =>
      have closedToo := alike.isFinished_eq.symm.trans closed
      rw [discard, discard, closed, closedToo, if_pos rfl, if_pos rfl]
      exact .done alike
  | false =>
      cases alike.eq_of_active closed
      rw [discard, closed, if_neg Bool.false_ne_true]
      cases written : first.mutated with
      | true =>
          rw [if_pos rfl]
          refine .call _ fun answer other _ => .done ⟨rfl, rfl, rfl, ?_⟩
          exact .released (.ofAnswer answer) (.ofAnswer other)
      | false =>
          rw [if_neg Bool.false_ne_true]
          exact .done (alike_refl _)

/-- The outcomes are the same and the transactions are alike. -/
def SameEnd (first second : Outcome × Transaction) : Prop :=
  first.1 = second.1 ∧ first.2.Alike second.2

theorem sameEnd_refl (ended : Outcome × Transaction) : SameEnd ended ended :=
  ⟨rfl, alike_refl ended.2⟩

/-- The outcome of an operation that gives a transaction up is fixed before the abort is answered. -/
theorem discard_bind_alike (transaction : Transaction) (outcome : Outcome) :
    (transaction.discard.bind fun released => Plan.done (outcome, released)).Alike SameEnd
      (transaction.discard.bind fun released => Plan.done (outcome, released)) :=
  (discard_alike (alike_refl transaction)).bind fun _ _ released => .done ⟨rfl, released⟩

/-- What follows an accepted reply. -/
theorem fold_alike (update : Watermark) (ended : Outcome × Transaction) :
    (Plan.fold update (.done ended)).Alike SameEnd (Plan.fold update (.done ended)) :=
  .fold update (.done (sameEnd_refl ended))

/-- An active transaction without the mark of an abort has nothing in which it could differ. -/
theorem perform_alike_of_active (active : transaction.isFinished = false)
    (unmarked : transaction.context.aborted = false) (operation : Operation) :
    (transaction.perform operation).Alike SameEnd (transaction.perform operation) := by
  cases operation with
  | query text bindings =>
      rw [perform_query_of_active active]
      refine Plan.alike_call rfl fun answer => ?_
      cases answer with
      | error failure => exact .done (sameEnd_refl _)
      | ok reply =>
          dsimp only
          split
          · exact fold_alike _ _
          · exact transaction.discard_bind_alike _
  | mutate mutation =>
      cases writable : transaction.mode.isReadOnly with
      | true =>
          rw [perform_mutate_of_readOnly active writable]
          exact .done (sameEnd_refl _)
      | false =>
          rw [perform_mutate_of_active active writable]
          refine Plan.alike_call rfl fun answer => ?_
          cases mutationError answer with
          | error error => exact transaction.discard_bind_alike _
          | ok reply =>
              dsimp only
              split
              · exact fold_alike _ _
              · exact discard_bind_alike _ _
  | commit =>
      cases written : transaction.mutated with
      | false =>
          rw [perform_commit_of_unwritten active written]
          exact .done (sameEnd_refl _)
      | true =>
          -- The call of a commit is no abort, so its answer counts.
          rw [perform_commit_of_active active written]
          have confirms : (Call.commitOrAbort transaction.context.toWire).isAbort = false := unmarked
          refine Plan.alike_call confirms fun answer => ?_
          cases transaction.commitOutcome answer with
          | error error => exact .done (sameEnd_refl _)
          | ok watermark => exact fold_alike _ _
  | discard => exact transaction.discard_bind_alike _
  | bestEffort =>
      rw [perform]
      cases transaction.withBestEffort with
      | ok changed => exact .done (sameEnd_refl _)
      | error error => exact .done (sameEnd_refl _)

/-- Transactions that are alike turn the same operations away. -/
theorem refusal_alike (alike : first.Alike second) (operation : Operation) :
    SameEnd (first.refusal operation) (second.refusal operation) := by
  cases operation with
  | query | mutate | commit | discard => exact ⟨rfl, alike⟩
  | bestEffort =>
      rw [refusal, refusal, alike.mode]
      cases second.mode.isReadOnly with
      | true => exact ⟨rfl, alike.context, rfl, alike.mutated, alike.phase⟩
      | false => exact ⟨rfl, alike⟩

/-- Operations on transactions that are alike are alike. -/
theorem perform_alike (alike : first.Alike second) (testifies : first.Testifies)
    (operation : Operation) :
    (first.perform operation).Alike SameEnd (second.perform operation) := by
  cases closed : first.isFinished with
  | true =>
      rw [perform_of_finished closed, perform_of_finished (alike.isFinished_eq.symm.trans closed)]
      exact .done (refusal_alike alike operation)
  | false =>
      have unmarked := testifies.unmarked (lastCleanup_of_active closed)
      cases alike.eq_of_active closed
      exact perform_alike_of_active closed unmarked operation

end Transaction

/-- The maps hold transactions that are alike under the same names. -/
def TransactionsAlike (first second : SortedMap String Transaction) : Prop :=
  ∀ name, Option.Rel Transaction.Alike (first.get? name) (second.get? name)

namespace TransactionsAlike

variable {first second : SortedMap String Transaction}

theorem refl (transactions : SortedMap String Transaction) :
    TransactionsAlike transactions transactions := by
  intro name
  cases transactions.get? name with
  | none => exact .none
  | some transaction => exact .some transaction.alike_refl

theorem insert (alike : TransactionsAlike first second) (name : String)
    {transaction other : Transaction} (same : transaction.Alike other) :
    TransactionsAlike (first.insert name transaction) (second.insert name other) := by
  intro sought
  rw [SortedMap.get?_insert, SortedMap.get?_insert]
  split
  · exact .some same
  · exact alike sought

theorem erase (alike : TransactionsAlike first second) (name : String) :
    TransactionsAlike (first.erase name) (second.erase name) := by
  intro sought
  rw [SortedMap.get?_erase, SortedMap.get?_erase]
  split
  · exact .none
  · exact alike sought

end TransactionsAlike

namespace Session

/-- The sessions differ at most in the records of cleanups. -/
structure Alike (first second : Session) : Prop where
  flavour : first.flavour = second.flavour
  client : first.client = second.client
  transactions : TransactionsAlike first.transactions second.transactions

/-- The records of all cleanups agree with the rest of their transactions. -/
def Testifies (session : Session) : Prop :=
  ∀ name transaction, session.transaction? name = some transaction → transaction.Testifies

variable {session other : Session} {step : Step} {inbox : List Delivery}

/-- The outcomes of steps are the same and the transactions that they leave are alike. -/
def SameEnd (first second : Outcome × SortedMap String Transaction) : Prop :=
  first.1 = second.1 ∧ TransactionsAlike first.2 second.2

/-- Sessions that are alike let go of a transaction alike. -/
theorem letGo_alike (alike : session.Alike other) (name : String) (mayNotBlock : Bool) :
    (session.letGo name mayNotBlock).Alike (fun _ _ => True) (other.letGo name mayNotBlock) := by
  have held := alike.transactions name
  rw [letGo, letGo, alike.flavour, transaction?, transaction?]
  generalize session.transactions.get? name = first at held ⊢
  generalize other.transactions.get? name = second at held ⊢
  cases held with
  | none => exact .done trivial
  | @some transaction another same =>
      have released : (dropPlan other.flavour mayNotBlock transaction).Alike Transaction.Alike
          (dropPlan other.flavour mayNotBlock another) := by
        cases other.flavour with
        | asynchronous => exact .done same
        | blocking =>
            cases mayNotBlock with
            | true => exact .done same
            | false => exact Transaction.discard_alike same
      exact released.bind fun _ _ _ => .done trivial

/-- Sessions that are alike have plans that are alike. -/
theorem plan_alike (alike : session.Alike other) (testifies : session.Testifies) (step : Step) :
    (session.plan step).Alike SameEnd (other.plan step) := by
  obtain ⟨flavour, client, transactions⟩ := alike
  have ask {message : Call} (quiet : message.isAbort = false)
      (outcome : Except ClientError message.Reply → Outcome) :
      ((Plan.call message fun answer => .done (answer.mapError ClientError.ofCallFailure)).bind
          fun result => .done (outcome result, session.transactions)).Alike SameEnd
        ((Plan.call message fun answer => .done (answer.mapError ClientError.ofCallFailure)).bind
          fun result => .done (outcome result, other.transactions)) :=
    Plan.alike_call quiet fun answer => .done ⟨rfl, transactions⟩
  cases step with
  | clone | look => exact .done ⟨rfl, transactions⟩
  | close timeout behaviours | shutdown behaviours =>
      rw [plan, plan, client]
      exact .done ⟨rfl, transactions⟩
  | alter change => exact ask rfl _
  | checkVersion => exact ask rfl _
  | begin name mode seed mayNotBlock =>
      rw [plan, plan, client]
      refine (letGo_alike ⟨flavour, client, transactions⟩ name mayNotBlock).bind fun _ _ _ =>
        .done ⟨rfl, ?_⟩
      exact transactions.insert name (Transaction.alike_refl _)
  | drop name mayNotBlock =>
      refine (letGo_alike ⟨flavour, client, transactions⟩ name mayNotBlock).bind fun _ _ _ => ?_
      have held := transactions name
      rw [transaction?, transaction?]
      generalize session.transactions.get? name = first at held ⊢
      generalize other.transactions.get? name = second at held ⊢
      cases held with
      | none => exact .done ⟨rfl, transactions⟩
      | some => exact .done ⟨rfl, transactions.erase name⟩
  | operate name operation =>
      have held := transactions name
      rw [plan, plan, transaction?, transaction?]
      generalize found : session.transactions.get? name = first at held ⊢
      generalize other.transactions.get? name = second at held ⊢
      cases held with
      | none => exact .done ⟨rfl, transactions⟩
      | some same =>
          refine (Transaction.perform_alike same (testifies name _ found) operation).bind ?_
          rintro ⟨outcome, after⟩ ⟨_, another⟩ ⟨rfl, left⟩
          exact .done ⟨rfl, transactions.insert name left⟩

/-- A record that testifies may be entered among others that do. -/
theorem insert_testifies (testifies : session.Testifies) {client : Client} {name : String}
    {transaction : Transaction} (own : transaction.Testifies) :
    Testifies { session with
      client
      transactions := session.transactions.insert name transaction } := by
  intro sought held found
  rw [transaction?, SortedMap.get?_insert] at found
  split at found
  · cases found
    exact own
  · exact testifies sought held found

/-- A step keeps all records in agreement with their transactions. -/
theorem step_testifies (testifies : session.Testifies) (inbox : List Delivery) (step : Step) :
    (session.step inbox step).2.Testifies := by
  cases step with
  | clone | look | close | shutdown | alter | checkVersion => exact testifies
  | begin name mode seed mayNotBlock =>
      exact insert_testifies testifies (Transaction.testifies_of_unreleased rfl rfl)
  | drop name mayNotBlock =>
      rw [Session.step, drop]
      cases session.transaction? name with
      | none => exact testifies
      | some old =>
          intro sought held found
          dsimp only at found
          rw [transaction?, SortedMap.get?_erase] at found
          split at found
          · cases found
          · exact testifies sought held found
  | operate name operation =>
      rw [Session.step]
      cases held : session.transaction? name with
      | none =>
          rw [operate, held]
          exact testifies
      | some transaction =>
          rw [operate_eq_turn held]
          obtain ⟨events, performed, -⟩ :=
            transaction.turn_performs ⟨operation, session.client, inbox⟩
          exact insert_testifies testifies (performed.testifies (testifies name transaction held))

/-- A run keeps all records in agreement with their transactions. -/
theorem run_testifies (testifies : session.Testifies) (script : List (Step × List Delivery)) :
    (session.run script).2.Testifies := by
  induction script generalizing session with
  | nil => exact testifies
  | cons taken rest inductionHypothesis =>
      exact inductionHypothesis (step_testifies testifies taken.2 taken.1)

/-- A step shows the same and leaves sessions that are alike, whatever is answered to an abort. -/
theorem step_alike (alike : session.Alike other) (testifies : session.Testifies)
    {inbox others : List Delivery} {step : Step}
    (agree : Delivery.Agree (session.step inbox step).1.calls inbox others) :
    (session.step inbox step).1.Alike (other.step others step).1 ∧
      (session.step inbox step).2.Alike (other.step others step).2 := by
  rw [step_eq_carryOut] at agree ⊢
  rw [step_eq_carryOut]
  have opened : (session.surroundings inbox).Alike (other.surroundings others)
      (session.carryOut inbox (session.plan step)).1.exchanges :=
    ⟨alike.client, .nil, rfl, agree⟩
  obtain ⟨⟨outcome, transactions⟩, client, exchanges, folds, inbox⟩ :=
    (plan_alike alike testifies step).run opened rfl
  have unused := congrArg List.length inbox
  exact ⟨⟨outcome, exchanges, folds, unused⟩, alike.flavour, client, transactions⟩

/-- The second script takes the same steps, and its deliveries differ from those of the first one at
most in what they answer to the aborts that this session sends on the first one. -/
def Agree (session : Session) :
    List (Step × List Delivery) → List (Step × List Delivery) → Prop
  | [], [] => True
  | (step, inbox) :: rest, (same, others) :: more =>
    same = step ∧ Delivery.Agree (session.step inbox step).1.calls inbox others ∧
      (session.step inbox step).2.Agree rest more
  | [], _ :: _ | _ :: _, [] => False

/-- Runs of sessions that are alike, on deliveries that agree, are alike. -/
theorem run_alike (alike : session.Alike other) (testifies : session.Testifies)
    {script others : List (Step × List Delivery)} (agree : session.Agree script others) :
    List.Forall₂ Record.Alike (session.run script).1 (other.run others).1 ∧
      (session.run script).2.Alike (other.run others).2 := by
  induction script generalizing session other others with
  | nil =>
      cases others with
      | nil => exact ⟨.nil, alike⟩
      | cons => exact agree.elim
  | cons taken rest inductionHypothesis =>
      obtain ⟨step, inbox⟩ := taken
      cases others with
      | nil => exact agree.elim
      | cons taken more =>
          obtain ⟨same, deliveries⟩ := taken
          obtain ⟨rfl, now, later⟩ := agree
          obtain ⟨record, after⟩ := step_alike alike testifies now
          obtain ⟨records, last⟩ :=
            inductionHypothesis after (step_testifies testifies inbox same) later
          exact ⟨.cons record records, last⟩

/-- The answer to an abort influences nothing but the record of the cleanup. Whatever a client has done
before, two runs that differ at most in what is answered to aborts have the same outcomes, send the
same calls to the same endpoints and fold the same watermarks, step by step; and they leave the same
client and the same transactions, which differ at most in the records of their cleanups. -/
theorem run_indifferent (flavour : Flavour) (client : Client)
    (earlier script others : List (Step × List Delivery))
    (agree : (Session.run { flavour, client } earlier).2.Agree script others) :
    let session := (Session.run { flavour, client } earlier).2
    List.Forall₂ Record.Alike (session.run script).1 (session.run others).1 ∧
      (session.run script).2.Alike (session.run others).2 := by
  intro session
  have initial : Testifies { flavour, client } := by
    intro name transaction found
    cases found
  have alike : session.Alike session := ⟨rfl, rfl, .refl session.transactions⟩
  exact run_alike alike (run_testifies initial earlier) agree

/-- A second write fails, and the abort that follows is answered with a context of its own or not in
time; a transaction that begins later sees nothing of it. -/
theorem run_indifferent_to_poisoned_abort :
    let pool := (Pool.ofEndpoints [{}]).withDeadline (.ofMilliseconds 20)
    let refused : Delivery :=
      { answer := fun
          | .mutate _ => .error ⟨.unavailable, "down"⟩
          | call => .ok call.emptyReply }
    let poisoned : Delivery :=
      { answer := fun
          | .commitOrAbort _ =>
            .ok { startTimestamp := 9, watermark := .ofList [(1, 7)], keys := ["k"] }
          | call => .ok call.emptyReply }
    let late : Delivery := { delay := .ofMilliseconds 21 }
    let earlier : List (Step × List Delivery) :=
      [(.begin "first" .readWrite none false, []), (.operate "first" (.mutate {}), [])]
    let script (abort : Delivery) : List (Step × List Delivery) :=
      [(.operate "first" (.mutate {}), [refused, abort]), (.begin "second" .readOnly none false, []),
        (.operate "second" (.query "" .empty), [])]
    let session := (Session.run { client := .ofPool pool } earlier).2
    session.Agree (script poisoned) (script late) ∧
      (session.run (script poisoned)).2.client = (session.run (script late)).2.client ∧
      ((session.run (script poisoned)).2.transaction? "first").bind Transaction.lastCleanup =
        some .completed ∧
      ((session.run (script late)).2.transaction? "first").bind Transaction.lastCleanup =
        some (.failed
          (.transport ⟨.deadlineExceeded, "call did not complete within 20ms"⟩)) := by
  intro pool refused poisoned late earlier script session
  have calls : (session.step [refused, poisoned] (.operate "first" (.mutate {}))).1.calls =
      [.mutate {}, .commitOrAbort { aborted := true }] := by decide
  have agree : session.Agree (script poisoned) (script late) := by
    refine ⟨rfl, ?_, rfl, Delivery.agree_refl _ _, rfl, Delivery.agree_refl _ _, trivial⟩
    rw [calls]
    refine ⟨rfl, fun _ => rfl, rfl, ?_, rfl⟩
    intro other
    cases other
  have whole : (session.run (script poisoned)).2.Alike (session.run (script late)).2 :=
    (run_indifferent .asynchronous (.ofPool pool) earlier (script poisoned) (script late) agree).2
  have completed : ((session.run (script poisoned)).2.transaction? "first").bind
      Transaction.lastCleanup = some .completed := by decide
  have failed : ((session.run (script late)).2.transaction? "first").bind Transaction.lastCleanup =
      some (.failed
        (.transport ⟨.deadlineExceeded, "call did not complete within 20ms"⟩)) := by decide
  exact ⟨agree, whole.client, completed, failed⟩

end Session

end GraphClient
