import GraphClient.Proofs.Transaction.Atomicity
import GraphClient.Proofs.Transaction.Stamp

namespace GraphClient

namespace Mode

/-- Best effort is a kind of reading only. -/
theorem isReadOnly_of_isBestEffort {mode : Mode} (bestEffort : mode.isBestEffort = true) :
    mode.isReadOnly = true := by
  cases mode with
  | readWrite => cases bestEffort
  | readOnly => rfl
  | bestEffort => rfl

/-- The mode after best effort has been asked for, which a transaction that may write ignores. -/
def eased : Mode → Mode
  | readWrite => readWrite
  | readOnly | bestEffort => bestEffort

/-- Asking for best effort does not change whether a transaction may write. -/
theorem eased_isReadOnly (mode : Mode) : mode.eased.isReadOnly = mode.isReadOnly := by
  cases mode <;> rfl

theorem eased_isBestEffort (mode : Mode) : mode.eased.isBestEffort = mode.isReadOnly := by
  cases mode <;> rfl

end Mode

namespace Transaction

variable {transaction after : Transaction} {operation : Operation} {outcome : Outcome}
  {events : List Event}

/-- Nothing is sent to release a transaction that has not written. -/
theorem Releases.events_eq_nil (released : transaction.Releases events after)
    (unwritten : transaction.mutated = false) : events = [] := by
  cases released with
  | finished => rfl
  | skipped => rfl
  | aborted active written =>
      rw [unwritten] at written
      cases written

theorem Releases.mode_eq (released : transaction.Releases events after) :
    after.mode = transaction.mode :=
  released.spares.2.2.2

/-- Only asking for best effort changes the mode. -/
theorem Performs.mode_after (performed : transaction.Performs operation events outcome after) :
    after.mode = if operation = .bestEffort then transaction.mode.eased else transaction.mode := by
  cases performed with
  | queryFinished | queryFailed | queryAccepted => rfl
  | queryMismatched active asked clashing released => exact released.mode_eq
  | mutateFinished | mutateReadOnly | mutateAccepted => rfl
  | mutateFailed active writable asked refused released => exact released.mode_eq
  | mutateMismatched active writable asked applied clashing released => exact released.mode_eq
  | commitFinished | commitUnwritten | commitFailed | commitConfirmed => rfl
  | discarded released => exact released.mode_eq
  | bestEffortSet unwritable =>
      rw [if_pos rfl]
      cases mode : transaction.mode with
      | readWrite =>
          rw [mode] at unwritable
          cases unwritable
      | readOnly | bestEffort => rfl
  | bestEffortRefused writable =>
      rw [if_pos rfl]
      cases mode : transaction.mode with
      | readWrite => rfl
      | readOnly | bestEffort =>
          rw [mode] at writable
          cases writable

/-- Only a transaction that may write gets to have written. -/
theorem Performs.writable_of_written
    (performed : transaction.Performs operation events outcome after)
    (written : after.mutated = true) :
    transaction.mutated = true ∨ transaction.mode.isReadOnly = false := by
  cases performed with
  | queryFinished | queryFailed | queryAccepted => exact .inl written
  | queryMismatched active asked clashing released => exact .inl (released.mutated_eq ▸ written)
  | mutateFinished | mutateReadOnly => exact .inl written
  | mutateFailed active writable => exact .inr writable
  | mutateAccepted active writable => exact .inr writable
  | mutateMismatched active writable => exact .inr writable
  | commitFinished | commitUnwritten | commitFailed | commitConfirmed => exact .inl written
  | discarded released => exact .inl (released.mutated_eq ▸ written)
  | bestEffortSet | bestEffortRefused => exact .inl written

/-- A transaction that may only read sends nothing but reads. -/
theorem Performs.reads (performed : transaction.Performs operation events outcome after)
    (unwritable : transaction.mode.isReadOnly = true) (unwritten : transaction.mutated = false) :
    ∀ exchange ∈ Event.exchanges events, ∃ request, exchange.call = .query request := by
  intro exchange member
  cases performed with
  | queryFinished | mutateFinished | mutateReadOnly | commitFinished | commitUnwritten =>
      cases member
  | queryFailed active asked => exact ⟨_, asked.call_eq member⟩
  | queryAccepted active asked compatible =>
      rw [Event.exchanges_pair_folded] at member
      exact ⟨_, asked.call_eq member⟩
  | queryMismatched active asked clashing released =>
      rw [released.events_eq_nil unwritten] at member
      exact ⟨_, asked.call_eq member⟩
  | mutateFailed active writable | mutateAccepted active writable
  | mutateMismatched active writable =>
      rw [unwritable] at writable
      cases writable
  | commitFailed active written | commitConfirmed active written =>
      rw [unwritten] at written
      cases written
  | discarded released =>
      rw [released.events_eq_nil unwritten] at member
      cases member
  | bestEffortSet | bestEffortRefused => cases member

/-- What holds of a transaction that was started in this mode, and has or has not been asked for best
effort since. -/
structure Abides (mode : Mode) (asked : Prop) (transaction : Transaction) : Prop where
  readOnly : transaction.mode.isReadOnly = mode.isReadOnly
  bestEffort : transaction.mode.isBestEffort = true ↔
    mode.isReadOnly = true ∧ (mode = .bestEffort ∨ asked)
  written : transaction.mutated = true → mode.isReadOnly = false

variable {mode : Mode} {asked : Prop}

theorem start_abides (mode : Mode) (seed : Watermark) : (start mode seed).Abides mode False where
  readOnly := rfl
  bestEffort := by cases mode <;> simp [start, Mode.isBestEffort, Mode.isReadOnly]
  written := Bool.noConfusion

/-- A transaction that was started to read only has not written. -/
theorem Abides.unwritten (abides : transaction.Abides mode asked)
    (unwritable : mode.isReadOnly = true) : transaction.mutated = false := by
  cases written : transaction.mutated with
  | false => rfl
  | true =>
      have writable := abides.written written
      rw [unwritable] at writable
      cases writable

/-- An operation keeps to the mode, which best effort alone can ease. -/
theorem Performs.abides (performed : transaction.Performs operation events outcome after)
    (abides : transaction.Abides mode asked) :
    after.Abides mode (asked ∨ operation = .bestEffort) := by
  have changed := performed.mode_after
  constructor
  · rw [changed]
    split
    next => exact (transaction.mode.eased_isReadOnly).trans abides.readOnly
    next => exact abides.readOnly
  · rw [changed]
    split
    next asks =>
      rw [transaction.mode.eased_isBestEffort, abides.readOnly]
      simp [asks]
    next unasked =>
      rw [abides.bestEffort]
      simp [unasked]
  · intro written
    rcases performed.writable_of_written written with earlier | writable
    · exact abides.written earlier
    · exact abides.readOnly.symm.trans writable

/-- Best effort has been asked for in one of these turns. -/
def Asked (turns : List Turn) : Prop :=
  ∃ turn ∈ turns, turn.operation = .bestEffort

theorem asked_append_singleton (turns : List Turn) (turn : Turn) :
    Asked (turns ++ [turn]) ↔ Asked turns ∨ turn.operation = .bestEffort := by
  simp [Asked, or_and_right, exists_or]

/-- The mode in which a transaction was started, and whether best effort has been asked for, decide
its mode ever after. -/
theorem through_abides (mode : Mode) (seed : Watermark) (occasions : List Occasion) :
    ((start mode seed).through occasions).Abides mode
      (Asked ((start mode seed).life occasions)) := by
  refine through_induction (fun transaction turns => transaction.Abides mode (Asked turns)) ?_ ?_
    occasions
  · intro transaction past occasion abides
    obtain ⟨events, performed, -⟩ := transaction.turn_performs occasion
    rw [asked_append_singleton]
    exact performed.abides abides
  · have initial := start_abides mode seed
    simpa [Asked] using initial

/-- A life that was started to read only sends nothing but reads. -/
theorem life_reads (unwritable : mode.isReadOnly = true) (seed : Watermark)
    (occasions : List Occasion) :
    ∀ exchange ∈ Turn.sent ((start mode seed).life occasions),
      ∃ request, exchange.call = .query request := by
  induction occasions using List.reverseRecOn with
  | nil =>
      intro exchange member
      cases member
  | append_singleton earlier occasion inductionHypothesis =>
      intro exchange member
      rw [life_append, Turn.sent_append] at member
      rcases List.mem_append.1 member with past | now
      · exact inductionHypothesis exchange past
      · have abides := through_abides mode seed earlier
        obtain ⟨events, performed, shown, -⟩ :=
          ((start mode seed).through earlier).turn_performs occasion
        rw [life, life, Turn.sent_cons, Turn.sent_nil, List.append_nil, shown] at now
        exact performed.reads (abides.readOnly.trans unwritable) (abides.unwritten unwritable)
          exchange now

section Loss

variable {session : Session} {name : String}

/-- Letting go of a transaction that has not written sends nothing. -/
theorem exchanges_dropPlan_of_unwritten (unwritten : transaction.mutated = false)
    (flavour : Flavour) (mayNotBlock : Bool) (session : Session) (inbox : List Delivery) :
    ((Session.dropPlan flavour mayNotBlock transaction).run
      (session.surroundings inbox)).2.traffic.exchanges = [] := by
  obtain ⟨events, released, shown⟩ :=
    Session.dropPlan_run flavour mayNotBlock transaction (session.surroundings inbox)
  have nothing : events = [] := by
    rcases released with nothing | ⟨after, releases⟩
    · exact nothing
    · exact releases.events_eq_nil unwritten
  rw [shown.exchanges, nothing]
  rfl

/-- Whoever lets go of a transaction that has not written sends nothing, be it that it is dropped or
that another one takes its name. -/
theorem exchanges_of_loss (unwritten : transaction.mutated = false)
    (held : session.transaction? name = some transaction) (inbox : List Delivery) :
    (∀ mayNotBlock, (session.drop inbox name mayNotBlock).1.exchanges = []) ∧
      ∀ mode seed mayNotBlock,
        (session.begin inbox name mode seed mayNotBlock).1.exchanges = [] := by
  constructor
  · intro mayNotBlock
    rw [Session.drop, held]
    exact exchanges_dropPlan_of_unwritten unwritten _ _ _ _
  · intro mode seed mayNotBlock
    rw [Session.begin, held]
    exact exchanges_dropPlan_of_unwritten unwritten _ _ _ _

end Loss

/-- A transaction keeps to the mode in which it was started. If it was started to read only, it has
never written, whatever becomes of it sends nothing but reads, and these reads ask for best effort
exactly from the moment on that the transaction was asked for it. The reads of a transaction that may
write never say that they are read-only or ask for best effort. -/
theorem life_keeps_mode (mode : Mode) (seed : Watermark) (occasions : List Occasion) :
    let turns := (start mode seed).life occasions
    let last := (start mode seed).through occasions
    (last.mode.isBestEffort = true → last.mode.isReadOnly = true) ∧
      (last.mutated = true → last.mode.isReadOnly = false) ∧
      last.mode.isReadOnly = mode.isReadOnly ∧
      (mode.isReadOnly = true →
        (∀ exchange ∈ Turn.sent turns, ∃ request, exchange.call = .query request) ∧
        ∀ (session : Session) (name : String), session.transaction? name = some last →
          ∀ inbox : List Delivery,
            (∀ mayNotBlock, (session.drop inbox name mayNotBlock).1.exchanges = []) ∧
            ∀ mode seed mayNotBlock,
              (session.begin inbox name mode seed mayNotBlock).1.exchanges = []) ∧
      ∀ (sending : Sending turns) (request : QueryRequest),
        sending.exchange.call = .query request →
          request.readOnly = mode.isReadOnly ∧
          (request.bestEffort = true ↔
            mode.isReadOnly = true ∧
              (mode = .bestEffort ∨ ∃ turn ∈ sending.earlier, turn.operation = .bestEffort)) := by
  intro turns last
  have abides : last.Abides mode (Asked turns) := through_abides mode seed occasions
  refine ⟨Mode.isReadOnly_of_isBestEffort, ?_, abides.readOnly, ?_, ?_⟩
  · intro written
    exact abides.readOnly.trans (abides.written written)
  · intro unwritable
    refine ⟨life_reads unwritable seed occasions, ?_⟩
    intro session name held inbox
    exact exchanges_of_loss (abides.unwritten unwritable) held inbox
  · intro sending request asks
    obtain ⟨earlier, occasion, later, past, taken, -⟩ := exists_occasions_at sending.toMoment
    have before : sending.turn.before = (start mode seed).through earlier := by rw [taken, turn]
    have holds := through_abides mode seed earlier
    rw [← past, ← before] at holds
    obtain ⟨sends, -⟩ := sends_at sending
    rw [asks] at sends
    generalize sending.turn.operation = operation at sends
    cases sends with
    | query => exact ⟨holds.readOnly, holds.bestEffort⟩

example :
    let client := Client.ofPool (.ofEndpoints [{}])
    (Turn.sent ((start .readOnly .empty).life
      [⟨.query "" .empty, client, []⟩, ⟨.mutate {}, client, []⟩, ⟨.bestEffort, client, []⟩,
        ⟨.query "" .empty, client, []⟩, ⟨.commit, client, []⟩])).map
      (fun exchange =>
        match exchange.call with
        | .query request => some (request.readOnly, request.bestEffort)
        | _ => none) = [some (true, false), some (true, true)] := by
  decide

end Transaction

end GraphClient
