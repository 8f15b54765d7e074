import GraphClient.Proofs.Client.Concurrent
import GraphClient.Proofs.Plan.Replay
import GraphClient.Proofs.Transaction.Sequence

namespace GraphClient

/-- Who picks the elements of one name finds all that is tagged with this name and nothing else. -/
theorem filterMap_tagged {Element Tagged : Type} {tag : Element → Tagged}
    {pick : Tagged → Option Element} {name other : String}
    (picks : ∀ element, pick (tag element) = if name = other then some element else none)
    (elements : List Element) :
    (elements.map tag).filterMap pick = if other = name then elements else [] := by
  have picked : pick ∘ tag = fun element => if name = other then some element else none :=
    funext picks
  rw [List.filterMap_map, picked]
  by_cases own : name = other
  · simp [own]
  · have apart : ¬ other = name := fun same => own same.symm
    simp [own, apart]

/-- The outcome of the operation, if it has come to its end. -/
def Pause.outcome? : Pause → Option Outcome
  | ended outcome _ => some outcome
  | waiting _ => none

/-- The call that the operation waits for, if it does. -/
def Pause.call? : Pause → Option Call
  | ended _ _ => none
  | waiting flight => some flight.message

/-- The outcome of the operation that ends with the move. -/
def Concurrent.outcome? (state : Concurrent) : Move → Option Outcome
  | .step _ _ _ => none
  | .start name operation draw =>
    match state.flight? name, state.session.transaction? name with
    | none, some transaction =>
      ((transaction.perform operation).advance draw state.session.client).1.outcome?
    | _, _ => none
  | .answer name delivery =>
    (state.flight? name).bind fun flight =>
      ((flight.resume ((state.arrival flight delivery).answer.mapError .refused)).advance
        delivery.draw state.session.client).1.outcome?

/-- The call that the entry tells this transaction has sent. -/
def Entry.call? (name : String) : Entry → Option Call
  | sent own call => if own = name then some call else none
  | begun _ | answered _ _ => none

/-- What one transaction still has before it. -/
structure Script where
  operations : List Operation := []
  deliveries : List Delivery := []

/-- A set of transactions of one client that act in turns. A turn starts the next operation of one
transaction or brings the answer that it waits for, and goes on up to the next pause, so that others
may act between a call and its answer. -/
structure Company where
  state : Concurrent
  scripts : SortedMap String Script
  outcomes : List (String × Outcome) := []

namespace Company

/-- What is left of the script of a transaction. -/
def script (company : Company) (name : String) : Script :=
  (company.scripts.get? name).getD {}

/-- The outcomes that one transaction has obtained. -/
def outcomesOf (company : Company) (name : String) : List Outcome :=
  company.outcomes.filterMap fun (own, outcome) => if own = name then some outcome else none

/-- The calls that one transaction has sent. -/
def callsOf (company : Company) (name : String) : List Call :=
  company.state.log.filterMap (Entry.call? name)

/-- The transaction is through with its script. -/
def isDone (company : Company) (name : String) : Bool :=
  (company.script name).operations.isEmpty && !company.state.isBusy name

/-- Makes a move of one transaction, and leaves it this script. -/
def proceed (company : Company) (name : String) (move : Move) (script : Script) : Company where
  state := company.state.move move
  scripts := company.scripts.insert name script
  outcomes := company.outcomes ++ (company.state.outcome? move).toList.map (name, ·)

/-- Gives one transaction its turn. What is drawn for the selection of an endpoint is drawn anew. -/
def turn (company : Company) (name : String) (draw : Nat) : Company :=
  match company.scripts.get? name with
  | none => company
  | some script =>
    if company.state.isBusy name then
      company.proceed name (.answer name { script.deliveries.headD {} with draw })
        { script with deliveries := script.deliveries.tail }
    else
      match script.operations with
      | [] => company
      | operation :: rest =>
        company.proceed name (.start name operation draw) { script with operations := rest }

/-- An interleaving tells whose turn it is, and what is drawn. -/
def run (company : Company) (interleaving : List (String × Nat)) : Company :=
  interleaving.foldl (fun company entry => company.turn entry.1 entry.2) company

/-- What one transaction of the company does by itself on a client of its own: the outcomes of its
operations, the transaction that they leave, and what it has exchanged. -/
def alone (company : Company) (solo : Client) (name : String) :
    (List Outcome × Transaction) × Surroundings :=
  let transaction := (company.state.session.transaction? name).getD default
  let script := company.script name
  (transaction.performAll script.operations).run
    { client := solo, traffic := { inbox := script.deliveries } }

end Company

/-- The performance with these outcomes before its own. -/
def Performance.told (performance : Performance (List Outcome × Transaction))
    (outcomes : List Outcome) : Performance (List Outcome × Transaction) :=
  { performance with result := (outcomes ++ performance.result.1, performance.result.2) }

/-- What is left after the pause: the rest of the operation, and the rest of the script. -/
def Pause.left (deadline : Option Duration) (script : Script) :
    Pause → Performance (List Outcome × Transaction)
  | ended _ transaction =>
    (transaction.performAll script.operations).replay deadline script.deliveries
  | waiting flight =>
    let answer := (script.deliveries.headD {}).brings deadline flight.message
    (Transaction.followedBy (flight.resume answer) script.operations).replay deadline
      script.deliveries.tail

/-- Up to the next pause an operation folds what its replay folds there, and at the pause it waits for
the call that its replay makes next. -/
theorem Plan.advance_left (plan : Plan (Outcome × Transaction)) (draw : Nat) (client : Client)
    (script : Script) (serves : client.pool.Serves) :
    let (pause, after) := plan.advance draw client
    after.pool.Serves ∧ after.pool.deadline = client.pool.deadline ∧
      ∃ folds, after.watermark = client.watermark ⊔ Watermark.join folds ∧
        (Transaction.followedBy plan script.operations).replay client.pool.deadline
            script.deliveries =
          ((pause.left client.pool.deadline script).told pause.outcome?.toList).preceded
            pause.call?.toList folds := by
  induction plan generalizing client with
  | done result =>
      refine ⟨serves, rfl, [], (sup_bot_eq _).symm, ?_⟩
      change ((result.2.performAll script.operations).bind fun others =>
        .done (result.1 :: others.1, others.2)).replay _ _ = _
      rw [replay_bind]
      simp [Pause.outcome?, Pause.call?, Pause.left, Performance.told, replay,
        Performance.preceded]
  | fold update rest inductionHypothesis =>
      obtain ⟨serving, deadline, folds, raised, left⟩ :=
        inductionHypothesis { client with shared := client.shared.foldIn update } serves
      refine ⟨serving, deadline, update :: folds, ?_, ?_⟩
      · have folded : (client.shared.foldIn update).read = client.watermark ⊔ update :=
          SharedWatermark.read_foldIn _ _
        change _ = (client.shared.foldIn update).read ⊔ _ at raised
        rw [folded, sup_assoc, ← Watermark.join_cons] at raised
        exact raised
      · change ((Transaction.followedBy rest script.operations).replay _ _).preceded [] [update] = _
        rw [left, Performance.preceded_preceded]
        rfl
  | call message resume inductionHypothesis =>
      obtain ⟨position, endpoint, selected⟩ := serves.exists_pick draw
      have serving := serves.pick draw
      have deadline := client.pool.pick_deadline draw
      rw [advance]
      generalize client.pool.pick draw = picked at *
      obtain ⟨choice, pool⟩ := picked
      dsimp only at selected serving deadline
      subst selected
      refine ⟨serving, deadline, [], (sup_bot_eq _).symm, ?_⟩
      rfl

namespace Company

/-- What is left for one transaction to do, also of an operation that waits. -/
def left? (company : Company) (name : String) :
    Option (Performance (List Outcome × Transaction)) :=
  let deadline := company.state.session.client.pool.deadline
  let script := company.script name
  match company.state.flight? name with
  | some flight => some ((Pause.waiting flight).left deadline script)
  | none =>
    (company.state.session.transaction? name).map fun transaction =>
      (transaction.performAll script.operations).replay deadline script.deliveries

/-- The number of turns that one transaction still needs: one for each operation that is not started
and one for each answer that has not come. -/
def due (company : Company) (name : String) : Nat :=
  (company.script name).operations.length +
    ((company.left? name).elim 0 fun left => left.calls.length) +
    (company.state.isBusy name).toNat

/-- What a turn of one transaction does: it brings a part of what was left for the transaction, raises
the shared watermark by what it folds, and does not touch the others. -/
structure Proceeds (before after : Company) (name : String) (outcomes : List Outcome)
    (calls : List Call) (folds : List Watermark) : Prop where
  own : before.left? name = (after.left? name).map fun left =>
    (left.told outcomes).preceded calls folds
  others : ∀ other, other ≠ name → after.left? other = before.left? other
  obtained : ∀ other, after.outcomesOf other =
    before.outcomesOf other ++ if other = name then outcomes else []
  sent : ∀ other, after.callsOf other =
    before.callsOf other ++ if other = name then calls else []
  due : ∀ other, after.due other = before.due other - if other = name then 1 else 0
  scripted : ∀ other,
    (after.scripts.get? other).isSome = (before.scripts.get? other).isSome
  shared : after.state.session.client.watermark =
    before.state.session.client.watermark ⊔ Watermark.join folds
  serves : after.state.session.client.pool.Serves

variable {company : Company} {name other : String} {move : Move} {script : Script}

@[simp] theorem script_proceed :
    (company.proceed name move script).script other =
      if other = name then script else company.script other := by
  rw [Company.script, proceed, SortedMap.get?_insert]
  split <;> rfl

theorem outcomesOf_proceed :
    (company.proceed name move script).outcomesOf other =
      company.outcomesOf other ++
        if other = name then (company.state.outcome? move).toList else [] := by
  rw [outcomesOf, proceed, List.filterMap_append]
  congr 1
  apply filterMap_tagged
  intro element
  rfl

section Pausing

variable {state : Concurrent} {pause : Pause} {client : Client}

/-- What is left at a pause is what its plan will still do. -/
theorem left?_of_pause (reached : company.state = state.pause name (pause, client)) :
    company.left? name = some (pause.left client.pool.deadline (company.script name)) := by
  rw [left?, reached]
  cases pause with
  | ended outcome transaction => simp [Pause.left]
  | waiting flight => simp

/-- A transaction is busy after a pause exactly if it has sent a call there. -/
theorem isBusy_of_pause (reached : company.state = state.pause name (pause, client)) :
    (company.state.isBusy name).toNat = pause.call?.toList.length := by
  rw [reached, Concurrent.isBusy]
  cases pause with
  | ended outcome transaction => simp [Pause.call?]
  | waiting flight => simp [Pause.call?]

theorem client_of_pause (reached : company.state = state.pause name (pause, client)) :
    company.state.session.client = client := by
  rw [reached, Concurrent.client_pause]

/-- The call that a transaction waits for at its pause has been sent. -/
theorem callsOf_of_pause {before : Company} {noted : List Entry}
    (reached : company.state =
      { before.state with log := before.state.log ++ noted }.pause name (pause, client))
    (silent : noted.filterMap (Entry.call? other) = []) :
    company.callsOf other =
      before.callsOf other ++ if other = name then pause.call?.toList else [] := by
  have log : company.state.log =
      before.state.log ++ noted ++ pause.call?.toList.map (.sent name ·) := by
    rw [reached]
    cases pause with
    | ended outcome transaction => exact (List.append_nil _).symm
    | waiting flight => rfl
  rw [callsOf, callsOf, log, List.filterMap_append, List.filterMap_append, silent, List.append_nil]
  congr 1
  apply filterMap_tagged
  intro element
  rfl

/-- A pause of another transaction changes nothing for this one. -/
theorem left?_of_pause_of_ne {before : Company} (apart : other ≠ name)
    (reached : company.state = state.pause name (pause, client))
    (flight : state.flight? other = before.state.flight? other)
    (transaction : state.session.transaction? other = before.state.session.transaction? other)
    (deadline : client.pool.deadline = before.state.session.client.pool.deadline)
    (script : company.script other = before.script other) :
    company.left? other = before.left? other ∧
      company.state.isBusy other = before.state.isBusy other := by
  have flies : company.state.flight? other = before.state.flight? other := by
    rw [reached, ← flight]
    cases pause <;> simp [apart]
  have held : company.state.session.transaction? other =
      before.state.session.transaction? other := by
    rw [reached, ← transaction]
    cases pause with
    | ended => simp [apart]
    | waiting => rfl
  have limit : company.state.session.client.pool.deadline =
      before.state.session.client.pool.deadline := by
    rw [client_of_pause reached, deadline]
  constructor
  · rw [left?, left?, flies, held, limit, script]
  · rw [Concurrent.isBusy, Concurrent.isBusy, flies]

/-- A move that carries a plan of one transaction on to its next pause. -/
theorem proceeds_of_pause {plan : Plan (Outcome × Transaction)} {draw : Nat} {noted : List Entry}
    (serves : company.state.session.client.pool.Serves)
    (known : (company.scripts.get? name).isSome)
    (moved : company.state.move move =
      { company.state with log := company.state.log ++ noted }.pause name
        (plan.advance draw company.state.session.client))
    (silent : ∀ other, noted.filterMap (Entry.call? other) = [])
    (ending : company.state.outcome? move =
      (plan.advance draw company.state.session.client).1.outcome?)
    (left : company.left? name = some ((Transaction.followedBy plan script.operations).replay
      company.state.session.client.pool.deadline script.deliveries))
    (shorter : (company.script name).operations.length + (company.state.isBusy name).toNat =
      script.operations.length + 1) :
    ∃ outcomes calls folds,
      company.Proceeds (company.proceed name move script) name outcomes calls folds := by
  have advanced := plan.advance_left draw company.state.session.client script serves
  generalize plan.advance draw company.state.session.client = reached at moved ending advanced
  obtain ⟨pause, client⟩ := reached
  obtain ⟨serving, deadline, folds, raised, replayed⟩ := advanced
  have reached : (company.proceed name move script).state =
      { company.state with log := company.state.log ++ noted }.pause name (pause, client) := moved
  have onward := left?_of_pause reached
  rw [script_proceed, if_pos rfl, deadline] at onward
  have apart (other : String) (different : other ≠ name) :=
    @left?_of_pause_of_ne (company.proceed name move script) name other _ pause client company
      different reached rfl rfl deadline (by rw [script_proceed, if_neg different])
  refine ⟨pause.outcome?.toList, pause.call?.toList, folds, ?_, ?_, ?_, ?_, ?_, ?_, ?_, ?_⟩
  · rw [left, onward, replayed]
    rfl
  · exact fun other different => (apart other different).1
  · intro other
    rw [outcomesOf_proceed, ending]
  · exact fun other => callsOf_of_pause reached (silent other)
  · intro other
    by_cases own : other = name
    · subst own
      rw [if_pos rfl, due, due, left, onward, replayed, script_proceed, if_pos rfl,
        isBusy_of_pause reached]
      simp only [Option.elim_some, Performance.preceded, Performance.told, List.length_append]
      omega
    · obtain ⟨same, busy⟩ := apart other own
      rw [if_neg own, due, due, same, busy, script_proceed, if_neg own, Nat.sub_zero]
  · intro other
    change ((company.scripts.insert name script).get? other).isSome = _
    rw [SortedMap.get?_insert]
    by_cases own : other = name
    · rw [if_pos own, own, known]
      rfl
    · rw [if_neg own]
  · rw [client_of_pause reached, raised]
  · rw [client_of_pause reached]
    exact serving

end Pausing

/-- Every transaction that has a script is there, and the pool serves. -/
structure Ready (company : Company) : Prop where
  serves : company.state.session.client.pool.Serves
  present : ∀ name, (company.scripts.get? name).isSome → (company.left? name).isSome

/-- A turn of a transaction that has nothing left to do. -/
theorem proceeds_of_due_eq_zero (serves : company.state.session.client.pool.Serves)
    (nothing : company.due name = 0) : company.Proceeds company name [] [] [] where
  own := by cases company.left? name <;> rfl
  others _ _ := rfl
  obtained other := by simp
  sent other := by simp
  due other := by
    by_cases own : other = name
    · rw [own, nothing, Nat.zero_sub]
    · rw [if_neg own, Nat.sub_zero]
  scripted _ := rfl
  shared := (sup_bot_eq _).symm
  serves := serves

/-- Bringing an answer carries its transaction on. -/
theorem answer_proceeds (serves : company.state.session.client.pool.Serves)
    (known : (company.scripts.get? name).isSome) {flight : Flight}
    (flies : company.state.flight? name = some flight) (own : company.script name = script)
    (draw : Nat) :
    ∃ outcomes calls folds,
      company.Proceeds
        (company.proceed name (.answer name { script.deliveries.headD {} with draw })
          { script with deliveries := script.deliveries.tail })
        name outcomes calls folds := by
  let delivery : Delivery := { script.deliveries.headD {} with draw }
  let exchange := company.state.arrival flight delivery
  apply @proceeds_of_pause _ _ _ _ (flight.resume (exchange.answer.mapError .refused)) draw
    [.answered name exchange] serves known
  · rw [Concurrent.move, Concurrent.answer, flies]
  · intro other
    rfl
  · rw [Concurrent.outcome?, flies]
    rfl
  · rw [left?, flies, own]
    rfl
  · rw [own, Concurrent.isBusy, flies]
    rfl

/-- Starting an operation carries its transaction on. -/
theorem start_proceeds (serves : company.state.session.client.pool.Serves)
    (known : (company.scripts.get? name).isSome) {transaction : Transaction}
    (free : company.state.flight? name = none)
    (held : company.state.session.transaction? name = some transaction)
    (own : company.script name = script) {operation : Operation} {rest : List Operation}
    (next : script.operations = operation :: rest) (draw : Nat) :
    ∃ outcomes calls folds,
      company.Proceeds
        (company.proceed name (.start name operation draw) { script with operations := rest })
        name outcomes calls folds := by
  apply @proceeds_of_pause _ _ _ _ (transaction.perform operation) draw [] serves known
  · rw [Concurrent.move, Concurrent.start, free, held, List.append_nil]
  · intro other
    rfl
  · rw [Concurrent.outcome?, free, held]
  · rw [left?, free, held, own, next]
    rfl
  · rw [own, next, Concurrent.isBusy, free]
    rfl

/-- Whatever a turn does, it is a part of what was left for its transaction. -/
theorem turn_proceeds (ready : company.Ready) (known : (company.scripts.get? name).isSome)
    (draw : Nat) :
    ∃ outcomes calls folds,
      company.Proceeds (company.turn name draw) name outcomes calls folds := by
  obtain ⟨script, found⟩ := Option.isSome_iff_exists.1 known
  have own : company.script name = script := by rw [Company.script, found, Option.getD_some]
  have present := ready.present name known
  rw [turn, found]
  dsimp only
  cases flies : company.state.flight? name with
  | some flight =>
      have busy : company.state.isBusy name = true := by rw [Concurrent.isBusy, flies]; rfl
      rw [if_pos busy]
      exact answer_proceeds ready.serves known flies own draw
  | none =>
      have free : company.state.isBusy name = false := by rw [Concurrent.isBusy, flies]; rfl
      rw [left?, flies, Option.isSome_map] at present
      obtain ⟨transaction, held⟩ := Option.isSome_iff_exists.1 present
      rw [free, if_neg Bool.false_ne_true]
      cases next : script.operations with
      | nil =>
          refine ⟨[], [], [], proceeds_of_due_eq_zero ready.serves ?_⟩
          rw [due, left?, flies, held, own, next, free]
          rfl
      | cons operation rest => exact start_proceeds ready.serves known flies held own next draw

end Company

end GraphClient
