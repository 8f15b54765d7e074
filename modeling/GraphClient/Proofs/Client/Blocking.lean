import Mathlib.Logic.Function.Basic
import GraphClient.Proofs.Client.StepPlan
import GraphClient.Proofs.Transaction.Learning

namespace GraphClient

/-- The name whose transaction the step lets go of where it may block. -/
def Step.loses? : Step → Option String
  | begin name _ _ false | drop name false => some name
  | begin _ _ _ true | drop _ true | clone _ | operate _ _ | alter _ | checkVersion | close _ _
  | shutdown _ | look => none

/-- The step lets go of the transaction of this name: it drops it, or puts another in its place. -/
inductive Step.LetsGo (name : String) (mayNotBlock : Bool) : Step → Prop
  | drop : LetsGo name mayNotBlock (.drop name mayNotBlock)
  | begin (mode : Mode) (seed : Option Watermark) :
      LetsGo name mayNotBlock (.begin name mode seed mayNotBlock)

/-- Where it may block, a step loses the transaction that it lets go of. -/
theorem Step.loses?_eq_some_iff {step : Step} {name : String} :
    step.loses? = some name ↔ step.LetsGo name false := by
  constructor
  · intro loses
    cases step with
    | clone | operate | alter | checkVersion | close | shutdown | look => cases loses
    | begin own mode seed mayNotBlock =>
        cases mayNotBlock with
        | true => cases loses
        | false =>
            cases loses
            exact .begin mode seed
    | drop own mayNotBlock =>
        cases mayNotBlock with
        | true => cases loses
        | false =>
            cases loses
            exact .drop
  · intro parts
    cases parts <;> rfl

namespace Session

def withFlavour (session : Session) (flavour : Flavour) : Session :=
  { session with flavour }

/-- There is a transaction of this name, and it is not finished. -/
def isOpen (session : Session) (name : String) : Bool :=
  (session.transaction? name).any fun transaction => !transaction.isFinished

/-- The steps of an asynchronous client that stand for one step of a blocking client: what the step
would let go of unfinished is discarded first, with the deliveries of the step. -/
def spellOut (session : Session) (step : Step) (inbox : List Delivery) :
    List (Step × List Delivery) :=
  match step.loses? with
  | none => [(step, inbox)]
  | some name =>
    if session.isOpen name then [(.operate name .discard, inbox), (step, [])] else [(step, inbox)]

end Session

/-- One record of several steps: the outcome of the last one, and all that they have shown. -/
def Record.combined : List Record → Record
  | [] => { outcome := .done }
  | [record] => record
  | record :: rest =>
    let later := combined rest
    { outcome := later.outcome
      exchanges := record.exchanges ++ later.exchanges
      folds := record.folds ++ later.folds
      unused := record.unused + later.unused }

namespace Session

variable {session : Session} {name : String} {old : Transaction}

/-- Letting go of a finished transaction does nothing, wherever it is done. -/
theorem dropPlan_of_finished (closed : old.isFinished = true) (flavour : Flavour)
    (mayNotBlock : Bool) : dropPlan flavour mayNotBlock old = .done old := by
  have ignored : old.discard = .done old := by
    rw [Transaction.discard, closed, if_pos rfl]
  cases flavour with
  | asynchronous => rfl
  | blocking =>
      cases mayNotBlock with
      | true => rfl
      | false => exact ignored

section Plain

/-- A transaction that is finished, that may not block, or whose client is asynchronous is let go of
without more ado. -/
theorem letGo_eq_done {mayNotBlock : Bool}
    (plain : session.flavour = .asynchronous ∨ mayNotBlock = true ∨ session.isOpen name = false) :
    session.letGo name mayNotBlock = .done () := by
  rw [letGo]
  cases held : session.transaction? name with
  | none => rfl
  | some old =>
      have still : dropPlan session.flavour mayNotBlock old = .done old := by
        rcases plain with asynchronous | mayNot | shut
        · rw [asynchronous]
          rfl
        · rw [mayNot]
          cases session.flavour <;> rfl
        · have closed : old.isFinished = true := by simpa [isOpen, held] using shut
          exact dropPlan_of_finished closed _ _
      dsimp only
      rw [still]
      rfl

/-- A step that lets go of no unfinished transaction where it may block is the same for both
flavours. -/
theorem plan_withFlavour {step : Step}
    (plain : ∀ name, step.loses? = some name → session.isOpen name = false) (flavour : Flavour) :
    (session.withFlavour flavour).plan step = (session.withFlavour .asynchronous).plan step := by
  have quiet (name : String) :
      (session.withFlavour .asynchronous).letGo name = fun _ => .done () :=
    funext fun _ => letGo_eq_done (.inl rfl)
  have silent {name : String} {mayNotBlock : Bool} (parts : step.LetsGo name mayNotBlock) :
      (session.withFlavour flavour).letGo name mayNotBlock = .done () := by
    apply letGo_eq_done
    cases mayNotBlock with
    | true => exact .inr (.inl rfl)
    | false => exact .inr (.inr (plain name (Step.loses?_eq_some_iff.2 parts)))
  cases step with
  | clone | operate | alter | checkVersion | close | shutdown | look => rfl
  | begin name mode seed mayNotBlock =>
      rw [plan, plan, silent (.begin mode seed), quiet]
      rfl
  | drop name mayNotBlock =>
      rw [plan, plan, silent .drop, quiet]
      rfl

/-- Such a step shows the same and leaves the same, whichever flavour the client has. -/
theorem step_withFlavour {step : Step}
    (plain : ∀ name, step.loses? = some name → session.isOpen name = false) (flavour : Flavour)
    (inbox : List Delivery) :
    (session.withFlavour flavour).step inbox step =
      let (record, after) := (session.withFlavour .asynchronous).step inbox step
      (record, after.withFlavour flavour) := by
  rw [step_eq_carryOut, step_eq_carryOut, plan_withFlavour plain flavour]
  rfl

end Plain

section Released

/-- Discarding a transaction folds nothing. -/
theorem watermark_discard (transaction : Transaction) (surroundings : Surroundings) :
    (transaction.discard.run surroundings).2.client.watermark = surroundings.client.watermark := by
  obtain ⟨events, yields, shown⟩ := transaction.discard.run_yields surroundings
  exact shown.unchanged (Transaction.releases_of_yields yields).folds_eq_nil

/-- The step that discards a transaction carries out the discard and keeps what is left. -/
theorem step_discard (session : Session) (held : session.transaction? name = some old)
    (inbox : List Delivery) :
    session.step inbox (.operate name .discard) =
      let (released, surroundings) := old.discard.run (session.surroundings inbox)
      (surroundings.record .done,
        { session.after surroundings with
          transactions := session.transactions.insert name released }) := by
  have performed : old.perform .discard =
      old.discard.bind fun released => .done (.done, released) := rfl
  rw [step, operate, held]
  dsimp only
  rw [performed, Plan.run_bind]
  rfl

/-- What a step leaves that lets go of this transaction: its outcome and the transactions. -/
def parting (session : Session) (name : String) : Step → Outcome × SortedMap String Transaction
  | .begin _ mode seed _ =>
    (.done, session.transactions.insert name (session.client.begin mode seed))
  | _ => (.dropped true, session.transactions.erase name)

/-- The plan of a step that loses a transaction lets go of it first. -/
theorem plan_of_letsGo {step : Step} (parts : step.LetsGo name false)
    (held : session.transaction? name = some old) :
    session.plan step =
      (dropPlan session.flavour false old).bind fun _ => .done (session.parting name step) := by
  have released : session.letGo name false =
      (dropPlan session.flavour false old).bind fun _ => .done () := by rw [letGo, held]
  cases parts with
  | drop =>
      rw [plan, released, Plan.bind_assoc, held]
      rfl
  | begin mode seed =>
      rw [plan, released, Plan.bind_assoc]
      rfl

/-- The step lets go of the transaction by its plan, and then leaves its own outcome. -/
theorem step_of_letsGo (session : Session) {step : Step} (parts : step.LetsGo name false)
    (held : session.transaction? name = some old) (inbox : List Delivery) :
    session.step inbox step =
      let (outcome, transactions) := session.parting name step
      let released :=
        ((dropPlan session.flavour false old).run (session.surroundings inbox)).2
      (released.record outcome, { session.after released with transactions }) := by
  rw [step_eq_carryOut, carryOut, plan_of_letsGo parts held, Plan.run_bind]
  rfl

/-- If the transaction has been released beforehand, the step leaves the same. -/
theorem parting_of_released (session : Session) {step : Step} (parts : step.LetsGo name false)
    {after : Session} {released : Transaction}
    (left : after.transactions = session.transactions.insert name released)
    (unfolded : after.client.watermark = session.client.watermark) :
    after.parting name step = session.parting name step := by
  cases parts with
  | drop => simp only [parting, left, SortedMap.erase_insert]
  | begin mode seed => simp only [parting, left, Client.begin, unfolded, SortedMap.insert_insert]

/-- A blocking client discards the transaction within the step; an asynchronous one discards it
beforehand, and then lets go of it without a word. -/
theorem step_blocking_of_letsGo {step : Step} (parts : step.LetsGo name false)
    (held : session.transaction? name = some old) (inbox : List Delivery) :
    (session.withFlavour .blocking).step inbox step =
      let (records, after) := (session.withFlavour .asynchronous).run
        [(.operate name .discard, inbox), (step, [])]
      (Record.combined records, after.withFlavour .blocking) := by
  let ending := old.discard.run (session.surroundings inbox)
  have unfolded : ending.2.client.watermark = session.client.watermark :=
    watermark_discard old (session.surroundings inbox)
  let between : Session :=
    { flavour := .asynchronous
      client := ending.2.client
      transactions := session.transactions.insert name ending.1 }
  have blocking : (session.withFlavour .blocking).step inbox step =
      (ending.2.record (session.parting name step).1,
        { flavour := .blocking
          client := ending.2.client
          transactions := (session.parting name step).2 }) :=
    step_of_letsGo (session.withFlavour .blocking) parts held inbox
  have discarded : (session.withFlavour .asynchronous).step inbox (.operate name .discard) =
      (ending.2.record .done, between) :=
    step_discard (session.withFlavour .asynchronous) held inbox
  have still : between.transaction? name = some ending.1 := by
    simp [between, transaction?, SortedMap.get?_insert]
  -- The asynchronous step then asks nothing of the nodes, so that it needs no deliveries.
  have parted : between.step [] step =
      ({ outcome := (session.parting name step).1 },
        { between with transactions := (session.parting name step).2 }) := by
    rw [step_of_letsGo between parts still, session.parting_of_released parts rfl unfolded]
    rfl
  rw [blocking, run, discarded]
  dsimp only
  rw [run, parted]
  simp [run, Record.combined, Surroundings.record, between, withFlavour]

end Released

/-- One step of a blocking client is what the asynchronous client does for the steps that it is spelled
out into. -/
theorem step_blocking (session : Session) (step : Step) (inbox : List Delivery) :
    (session.withFlavour .blocking).step inbox step =
      let (records, after) := (session.withFlavour .asynchronous).run (session.spellOut step inbox)
      (Record.combined records, after.withFlavour .blocking) := by
  have alike (plain : ∀ name, step.loses? = some name → session.isOpen name = false) :
      (session.withFlavour .blocking).step inbox step =
        let (records, after) := (session.withFlavour .asynchronous).run [(step, inbox)]
        (Record.combined records, after.withFlavour .blocking) := step_withFlavour plain _ _
  rw [spellOut]
  cases loses : step.loses? with
  | none =>
      apply alike
      intro own same
      rw [loses] at same
      cases same
  | some name =>
      dsimp only
      cases unfinished : session.isOpen name with
      | false =>
          apply alike
          intro own same
          rw [loses] at same
          cases same
          exact unfinished
      | true =>
          obtain ⟨old, held⟩ : ∃ old, session.transaction? name = some old := by
            cases held : session.transaction? name with
            | none => simp [isOpen, held] at unfinished
            | some old => exact ⟨old, rfl⟩
          exact step_blocking_of_letsGo (Step.loses?_eq_some_iff.1 loses) held inbox

/-- A step does not turn a client of one flavour into one of the other. -/
theorem flavour_step (session : Session) (inbox : List Delivery) (step : Step) :
    (session.step inbox step).2.flavour = session.flavour := by
  rw [step_eq_carryOut]
  rfl

/-- A transaction that is finished, that may not block or whose client is asynchronous is let go of
without a call and without a fold. -/
theorem step_quiet {mayNotBlock : Bool} {step : Step} (parts : step.LetsGo name mayNotBlock)
    (plain : session.flavour = .asynchronous ∨ mayNotBlock = true ∨ session.isOpen name = false)
    (inbox : List Delivery) :
    let (record, after) := session.step inbox step
    record.exchanges = [] ∧ record.folds = [] ∧ after.client = session.client := by
  rw [step_eq_carryOut, carryOut]
  cases parts with
  | drop =>
      rw [plan, letGo_eq_done plain]
      cases session.transaction? name with
      | none => exact ⟨rfl, rfl, rfl⟩
      | some old => exact ⟨rfl, rfl, rfl⟩
  | begin mode seed =>
      rw [plan, letGo_eq_done plain]
      exact ⟨rfl, rfl, rfl⟩

/-- Where nothing may block, or nothing is open, a step stands for itself. -/
theorem spellOut_of_letsGo {mayNotBlock : Bool} {step : Step}
    (parts : step.LetsGo name mayNotBlock)
    (plain : mayNotBlock = true ∨ session.isOpen name = false) (inbox : List Delivery) :
    session.spellOut step inbox = [(step, inbox)] := by
  cases mayNotBlock with
  | true => cases parts <;> rfl
  | false =>
      have shut : session.isOpen name = false := plain.resolve_left Bool.false_ne_true
      rw [spellOut, Step.loses?_eq_some_iff.2 parts]
      dsimp only
      rw [shut, if_neg Bool.false_ne_true]

end Session

/-- A step that one of several clients takes, with the deliveries of its calls. -/
structure ClientStep where
  client : String
  step : Step
  inbox : List Delivery

/-- Several clients, each with its own transactions, known by a name. -/
@[ext] structure Fleet where
  sessions : String → Session

namespace Fleet

def update (fleet : Fleet) (client : String) (session : Session) : Fleet where
  sessions := Function.update fleet.sessions client session

def step (fleet : Fleet) (taken : ClientStep) : Record × Fleet :=
  let (record, after) := (fleet.sessions taken.client).step taken.inbox taken.step
  (record, fleet.update taken.client after)

/-- Takes the steps in order, each by its own client. -/
def run (fleet : Fleet) : List ClientStep → List Record × Fleet
  | [] => ([], fleet)
  | taken :: rest =>
    let (record, after) := fleet.step taken
    let (records, last) := after.run rest
    (record :: records, last)

def withFlavour (fleet : Fleet) (flavour : Flavour) : Fleet where
  sessions client := (fleet.sessions client).withFlavour flavour

/-- The asynchronous steps that stand for one blocking step of these clients. -/
def spellOut (fleet : Fleet) (taken : ClientStep) : List ClientStep :=
  ((fleet.sessions taken.client).spellOut taken.step taken.inbox).map fun (step, inbox) =>
    { client := taken.client, step, inbox }

/-- The asynchronous script that stands for a blocking script, one group of steps for each step. Which
transactions are unfinished is seen as the asynchronous clients go on. -/
def groups (fleet : Fleet) : List ClientStep → List (List ClientStep)
  | [] => []
  | taken :: rest =>
    let group := fleet.spellOut taken
    group :: (fleet.run group).2.groups rest

variable {fleet : Fleet}

theorem run_cons (fleet : Fleet) (taken : ClientStep) (rest : List ClientStep) :
    fleet.run (taken :: rest) =
      ((fleet.step taken).1 :: ((fleet.step taken).2.run rest).1,
        ((fleet.step taken).2.run rest).2) :=
  rfl

theorem run_append (fleet : Fleet) (first second : List ClientStep) :
    fleet.run (first ++ second) =
      let (records, between) := fleet.run first
      let (others, after) := between.run second
      (records ++ others, after) := by
  induction first generalizing fleet with
  | nil => rfl
  | cons taken rest inductionHypothesis =>
      rw [List.cons_append, run_cons, inductionHypothesis]
      rfl

theorem length_run (fleet : Fleet) (script : List ClientStep) :
    (fleet.run script).1.length = script.length := by
  induction script generalizing fleet with
  | nil => rfl
  | cons taken rest inductionHypothesis => exact congrArg (· + 1) (inductionHypothesis _)

/-- What a single client does among several is what it does by itself. -/
theorem run_of_client (fleet : Fleet) (client : String) (script : List (Step × List Delivery)) :
    fleet.run (script.map fun (step, inbox) => { client, step, inbox }) =
      let (records, after) := (fleet.sessions client).run script
      (records, fleet.update client after) := by
  induction script generalizing fleet with
  | nil => exact Prod.ext rfl (Fleet.ext (Function.update_eq_self client fleet.sessions).symm)
  | cons taken rest inductionHypothesis =>
      rw [List.map_cons, run_cons, inductionHypothesis]
      simp [step, update, Session.run]

theorem update_withFlavour (fleet : Fleet) (client : String) (session : Session)
    (flavour : Flavour) :
    (fleet.withFlavour flavour).update client (session.withFlavour flavour) =
      (fleet.update client session).withFlavour flavour := by
  ext1
  funext other
  by_cases own : other = client
  · simp [withFlavour, update, own]
  · simp [withFlavour, update, own]

/-- A run does not turn a client of one flavour into one of the other. -/
theorem flavour_run (fleet : Fleet) (script : List ClientStep) (client : String) :
    ((fleet.run script).2.sessions client).flavour = (fleet.sessions client).flavour := by
  induction script generalizing fleet with
  | nil => rfl
  | cons taken rest inductionHypothesis =>
      rw [run_cons, inductionHypothesis]
      by_cases own : client = taken.client
      · subst own
        simpa [step, update] using Session.flavour_step _ taken.inbox taken.step
      · simp [step, update, own]

/-- Asynchronous clients stay asynchronous. -/
theorem withFlavour_run (fleet : Fleet) (flavour : Flavour) (script : List ClientStep) :
    ((fleet.withFlavour flavour).run script).2.withFlavour flavour =
      ((fleet.withFlavour flavour).run script).2 := by
  ext1
  funext client
  have kept : flavour =
      (((fleet.withFlavour flavour).run script).2.sessions client).flavour :=
    (flavour_run (fleet.withFlavour flavour) script client).symm
  exact congrArg (Session.withFlavour _) kept

/-- One step of one of several blocking clients is what the asynchronous clients do for the steps that
it is spelled out into. -/
theorem step_blocking (fleet : Fleet) (taken : ClientStep) :
    (fleet.withFlavour .blocking).step taken =
      let (records, after) :=
        (fleet.withFlavour .asynchronous).run ((fleet.withFlavour .asynchronous).spellOut taken)
      (Record.combined records, after.withFlavour .blocking) := by
  have own := Session.step_blocking (fleet.sessions taken.client) taken.step taken.inbox
  have updated := update_withFlavour (fleet.withFlavour .asynchronous) taken.client
  rw [spellOut, run_of_client]
  dsimp only
  rw [← updated]
  exact congrArg
    (fun (record, after) => (record, (fleet.withFlavour .blocking).update taken.client after)) own

/-- A blocking script comes to the same as the groups of asynchronous steps that stand for it. -/
theorem run_groups (fleet : Fleet) (script : List ClientStep) :
    let asynchronous := fleet.withFlavour .asynchronous
    ∃ (records : List (List Record)) (after : Fleet),
      asynchronous.run (asynchronous.groups script).flatten = (records.flatten, after) ∧
        records.map List.length = (asynchronous.groups script).map List.length ∧
        (fleet.withFlavour .blocking).run script =
          (records.map Record.combined, after.withFlavour .blocking) := by
  -- The clients that are left after a group are asynchronous again, so that the hypothesis applies to
  -- them.
  induction script generalizing fleet with
  | nil => exact ⟨[], fleet.withFlavour .asynchronous, rfl, rfl, rfl⟩
  | cons taken rest inductionHypothesis =>
      intro asynchronous
      have stepped := fleet.step_blocking taken
      have asynchronously := withFlavour_run fleet .asynchronous (asynchronous.spellOut taken)
      have length := length_run asynchronous (asynchronous.spellOut taken)
      rw [groups, List.flatten_cons, run_append]
      generalize asynchronous.run (asynchronous.spellOut taken) = shown
        at stepped asynchronously length ⊢
      obtain ⟨first, between⟩ := shown
      obtain ⟨records, after, spelled, lengths, blocking⟩ := inductionHypothesis between
      rw [asynchronously] at spelled lengths
      refine ⟨first :: records, after, ?_, ?_, ?_⟩
      · dsimp only
        rw [spelled]
        rfl
      · rw [List.map_cons, List.map_cons, length, lengths]
      · rw [run_cons, stepped, blocking]
        rfl

/-- Blocking clients show the same as asynchronous ones for which each unfinished transaction that is
let go of, where it may block, is discarded first, and they leave the same transactions and the same
shared watermarks. A step that lets go of another transaction stands for itself and asks nothing of
the nodes. -/
theorem run_blocking (fleet : Fleet) (script : List ClientStep) :
    let asynchronous := fleet.withFlavour .asynchronous
    (∃ (records : List (List Record)) (after : Fleet),
      asynchronous.run (asynchronous.groups script).flatten = (records.flatten, after) ∧
        records.map List.length = (asynchronous.groups script).map List.length ∧
        (fleet.withFlavour .blocking).run script =
          (records.map Record.combined, after.withFlavour .blocking)) ∧
      ∀ (flavour : Flavour) (client name : String) (mayNotBlock : Bool) (inbox : List Delivery)
        (step : Step), step.LetsGo name mayNotBlock →
        let session := ((fleet.withFlavour flavour).run script).2.sessions client
        (mayNotBlock = true ∨ session.isOpen name = false →
            session.spellOut step inbox = [(step, inbox)]) ∧
          (flavour = .asynchronous ∨ mayNotBlock = true ∨ session.isOpen name = false →
            let (record, after) := session.step inbox step
            record.exchanges = [] ∧ record.folds = [] ∧ after.client = session.client) := by
  refine ⟨fleet.run_groups script, ?_⟩
  intro flavour client name mayNotBlock inbox step parts session
  refine ⟨fun plain => Session.spellOut_of_letsGo parts plain inbox, fun plain => ?_⟩
  have kept : session.flavour = flavour := flavour_run (fleet.withFlavour flavour) script client
  rw [← kept] at plain
  exact Session.step_quiet parts plain inbox

example :
    let fleet : Fleet := { sessions := fun _ => { client := .ofPool (.ofEndpoints [{}]) } }
    let script : List ClientStep :=
      [⟨"own", .begin "" .readWrite none false, []⟩, ⟨"own", .operate "" (.mutate {}), []⟩,
        ⟨"other", .drop "" false, []⟩, ⟨"own", .drop "" false, []⟩]
    ((fleet.groups script).map fun group => group.map ClientStep.step) =
      [[.begin "" .readWrite none false], [.operate "" (.mutate {})], [.drop "" false],
        [.operate "" .discard, .drop "" false]] := by
  decide

end Fleet

end GraphClient
