import GraphClient.Proofs.Transaction.Atomicity
import GraphClient.Proofs.Transaction.Release

namespace GraphClient

/-- An abort counts as attempted whatever its answer is. -/
theorem Cleanup.wasAttempted_ofAnswer (answer : Except CallFailure WireContext) :
    (Cleanup.ofAnswer answer).wasAttempted = true := by
  cases answer <;> rfl

theorem Cleanup.wasAttempted_iff {cleanup : Cleanup} :
    cleanup.wasAttempted = true ↔ cleanup = .completed ∨ ∃ error, cleanup = .failed error := by
  cases cleanup <;> simp [wasAttempted]

namespace Turn

/-- The transaction is finished by this turn. -/
def finishes (turn : Turn) : Bool :=
  !turn.before.isFinished && turn.after.isFinished

/-- The operation of the turn settles the transaction: it is a commit, or a write that was committed
when it was applied. -/
def Settles (turn : Turn) : Prop :=
  turn.operation = .commit ∨ turn.operation.CommitsAtOnce turn.record.outcome

end Turn

namespace Transaction

variable {transaction after : Transaction} {operation : Operation} {outcome : Outcome}
  {events : List Event} {occasions : List Occasion}

/-- A transaction with a record is finished. -/
theorem isFinished_of_lastCleanup {cleanup : Cleanup}
    (recorded : transaction.lastCleanup = some cleanup) : transaction.isFinished = true := by
  cases phase : transaction.phase with
  | active =>
      rw [lastCleanup, phase] at recorded
      cases recorded
  | settled => rw [isFinished, phase]; rfl
  | released => rw [isFinished, phase]; rfl

theorem lastCleanup_of_active (active : transaction.isFinished = false) :
    transaction.lastCleanup = none := by
  cases recorded : transaction.lastCleanup with
  | none => rfl
  | some cleanup =>
      rw [isFinished_of_lastCleanup recorded] at active
      cases active

section Testimony

/-- The record of the cleanup agrees with the mark on the context and with what was written. -/
structure Testifies (transaction : Transaction) : Prop where
  unmarked : transaction.lastCleanup = none → transaction.context.aborted = false
  marked : ∀ cleanup, transaction.lastCleanup = some cleanup →
    transaction.context.aborted = cleanup.wasAttempted ∧
      transaction.mutated = cleanup.wasAttempted

theorem testifies_of_unreleased (unreleased : transaction.lastCleanup = none)
    (unmarked : transaction.context.aborted = false) : transaction.Testifies where
  unmarked _ := unmarked
  marked cleanup recorded := by
    rw [unreleased] at recorded
    cases recorded

theorem testifies_of_released {cleanup : Cleanup}
    (recorded : transaction.lastCleanup = some cleanup)
    (marked : transaction.context.aborted = cleanup.wasAttempted)
    (written : transaction.mutated = cleanup.wasAttempted) : transaction.Testifies where
  unmarked missing := by
    rw [recorded] at missing
    cases missing
  marked found same := by
    rw [recorded] at same
    cases same
    exact ⟨marked, written⟩

/-- A release marks the context exactly if it attempts an abort, which it does exactly after a
write. -/
theorem Releases.testifies (released : transaction.Releases events after)
    (testifies : transaction.Testifies) : after.Testifies := by
  cases released with
  | finished => exact testifies
  | skipped active unwritten =>
      have unmarked := testifies.unmarked (lastCleanup_of_active active)
      exact testifies_of_released rfl unmarked unwritten
  | @aborted active written answer event asked =>
      have attempted := Cleanup.wasAttempted_ofAnswer answer
      exact testifies_of_released rfl attempted.symm (written.trans attempted.symm)

/-- No operation lets the record and the rest of the transaction fall apart. -/
theorem Performs.testifies (performed : transaction.Performs operation events outcome after)
    (testifies : transaction.Testifies) : after.Testifies := by
  -- As long as the transaction is active, its context is not marked.
  have unmarked (active : transaction.isFinished = false) : transaction.context.aborted = false :=
    testifies.unmarked (lastCleanup_of_active active)
  cases performed with
  | queryFinished | queryFailed | mutateFinished | mutateReadOnly | commitFinished
  | bestEffortRefused => exact testifies
  | queryAccepted active =>
      exact testifies_of_unreleased (lastCleanup_of_active active) (unmarked active)
  | queryMismatched active asked clashing released => exact released.testifies testifies
  | mutateFailed active writable asked refused released => exact released.testifies testifies
  | @mutateAccepted mutation reply event active writable asked applied compatible =>
      refine testifies_of_unreleased ?_ (unmarked active)
      cases now : mutation.commitNow with
      | true => rfl
      | false => exact lastCleanup_of_active active
  | mutateMismatched active writable asked applied clashing released =>
      exact released.testifies
        (testifies_of_unreleased (lastCleanup_of_active active) (unmarked active))
  | commitUnwritten active | commitFailed active | commitConfirmed active =>
      exact testifies_of_unreleased rfl (unmarked active)
  | discarded released => exact released.testifies testifies
  | bestEffortSet => exact ⟨testifies.unmarked, testifies.marked⟩

/-- At all times the record agrees with the mark and with what was written. -/
theorem through_testifies (mode : Mode) (seed : Watermark) (occasions : List Occasion) :
    ((start mode seed).through occasions).Testifies := by
  refine through_induction (fun transaction _ => transaction.Testifies) ?_
    (testifies_of_unreleased rfl rfl) occasions
  intro transaction past occasion testifies
  obtain ⟨events, performed, -⟩ := transaction.turn_performs occasion
  exact performed.testifies testifies

end Testimony

section Ending

/-- An operation that finishes a transaction leaves no record of a cleanup exactly if it settles the
transaction. -/
theorem Performs.unreleased_iff (performed : transaction.Performs operation events outcome after)
    (active : transaction.isFinished = false) (closed : after.isFinished = true) :
    after.lastCleanup = none ↔ operation = .commit ∨ operation.CommitsAtOnce outcome := by
  -- Whoever releases the transaction leaves a record, and is no operation that settles it.
  have recorded {origin : Transaction} {events : List Event}
      (released : origin.Releases events after) (open_ : origin.isFinished = false)
      (uncommitted : operation ≠ .commit) (late : ¬ operation.CommitsAtOnce outcome) :
      after.lastCleanup = none ↔ operation = .commit ∨ operation.CommitsAtOnce outcome := by
    obtain ⟨cleanup, found, -⟩ := released.recorded open_
    simp [found, uncommitted, late]
  cases performed with
  | queryFinished | queryFailed | mutateFinished | mutateReadOnly | commitFinished
  | bestEffortRefused | bestEffortSet | queryAccepted =>
      exact absurd (closed.symm.trans active) Bool.noConfusion
  | queryMismatched _ asked clashing released =>
      exact recorded released active (by simp) (by simp [Operation.CommitsAtOnce])
  | mutateFailed _ writable asked refused released =>
      exact recorded released active (by simp) (by simp [Operation.CommitsAtOnce])
  | @mutateAccepted mutation reply event _ writable asked applied compatible =>
      cases now : mutation.commitNow with
      | true => simp [Operation.CommitsAtOnce, lastCleanup, now]
      | false =>
          rw [isFinished, now] at closed
          exact absurd (closed.symm.trans active) Bool.noConfusion
  | mutateMismatched _ writable asked applied clashing released =>
      exact recorded released active (by simp) (by simp [Operation.CommitsAtOnce])
  | commitUnwritten | commitFailed | commitConfirmed => exact iff_of_true rfl (.inl rfl)
  | discarded released =>
      exact recorded released active (by simp) (by simp [Operation.CommitsAtOnce])

/-- A turn of a finished transaction does not change how it has ended. -/
theorem turn_phase_of_finished (closed : transaction.isFinished = true) (occasion : Occasion) :
    (transaction.turn occasion).after.phase = transaction.phase := by
  rcases (turn_idle closed occasion).kept with kept | ⟨-, -, changed⟩
  · rw [kept]
    rfl
  · rw [changed]
    rfl

/-- What is recorded of the end of a transaction never changes. -/
theorem through_phase_of_finished (closed : transaction.isFinished = true)
    (occasions : List Occasion) : (transaction.through occasions).phase = transaction.phase := by
  induction occasions generalizing transaction with
  | nil => rfl
  | cons occasion rest inductionHypothesis =>
      rw [through, inductionHypothesis (turn_idle closed occasion).closed,
        turn_phase_of_finished closed]

/-- What the turns of a transaction tell of its end: one of them has finished it, if it is finished,
and the record of a cleanup is missing exactly if that one has settled it. -/
structure Ends (transaction : Transaction) (turns : List Turn) : Prop where
  once : turns.countP Turn.finishes = transaction.isFinished.toNat
  unreleased : transaction.isFinished = true →
    (transaction.lastCleanup = none ↔ ∃ turn ∈ turns, turn.finishes = true ∧ turn.Settles)

/-- A turn of a finished transaction is not the one that has finished it. -/
theorem Ends.idle {turns : List Turn} (ends : transaction.Ends turns)
    (closed : transaction.isFinished = true) (occasion : Occasion) :
    (transaction.turn occasion).after.Ends (turns ++ [transaction.turn occasion]) := by
  have after := (turn_idle closed occasion).closed
  have late : (transaction.turn occasion).finishes = false := by
    change (!transaction.isFinished && _) = false
    rw [closed]
    rfl
  have same : (transaction.turn occasion).after.lastCleanup = transaction.lastCleanup := by
    rw [lastCleanup, lastCleanup, turn_phase_of_finished closed]
  constructor
  · rw [List.countP_append, List.countP_singleton, late, ends.once, closed, after]
    rfl
  · intro _
    rw [same, ends.unreleased closed]
    simp [late]

/-- Before the turn that finishes a transaction there is no other one. -/
theorem Ends.proceed {turns : List Turn} (ends : transaction.Ends turns)
    (active : transaction.isFinished = false) (occasion : Occasion) :
    (transaction.turn occasion).after.Ends (turns ++ [transaction.turn occasion]) := by
  obtain ⟨events, performed, -⟩ := transaction.turn_performs occasion
  have own : (transaction.turn occasion).finishes =
      (transaction.turn occasion).after.isFinished := by
    change (!transaction.isFinished && _) = _
    rw [active]
    rfl
  have none : turns.countP Turn.finishes = 0 := by
    rw [ends.once, active]
    rfl
  have earlier : ∀ turn ∈ turns, ¬ turn.finishes = true := List.countP_eq_zero.1 none
  constructor
  · rw [List.countP_append, none, List.countP_singleton, own, Nat.zero_add]
    cases (transaction.turn occasion).after.isFinished <;> rfl
  · intro closed
    rw [performed.unreleased_iff active closed]
    constructor
    · intro settles
      exact ⟨_, List.mem_append_right _ List.mem_cons_self, own.trans closed, settles⟩
    · rintro ⟨turn, member, finishes, settles⟩
      rcases List.mem_append.1 member with past | now
      · exact absurd finishes (earlier turn past)
      · rw [List.mem_singleton.1 now] at settles
        exact settles

/-- If a life has finished the transaction, one turn of it has, and that one decides whether there is a
record. -/
theorem through_ends (mode : Mode) (seed : Watermark) (occasions : List Occasion) :
    ((start mode seed).through occasions).Ends ((start mode seed).life occasions) := by
  refine through_induction Ends ?_ ⟨rfl, fun closed => by cases closed⟩ occasions
  intro transaction past occasion ends
  cases closed : transaction.isFinished with
  | true => exact ends.idle closed occasion
  | false => exact ends.proceed closed occasion

end Ending

/-- Whatever a transaction has gone through, the record of its cleanup tells the truth. There is one
only if the transaction is finished; nothing to clean up means that nothing was written and no abort
was asked for; and an abort was asked for exactly if the record says that it was completed or has
failed. A finished transaction was finished by one of its turns, and it has no record exactly if this
turn was a commit or a write that was committed at once. A record stays as it is for ever. -/
theorem cleanup_tells_the_end (mode : Mode) (seed : Watermark) (occasions : List Occasion) :
    let turns := (start mode seed).life occasions
    let last := (start mode seed).through occasions
    (last.lastCleanup.isSome = true → last.isFinished = true) ∧
      (last.lastCleanup = some .skipped →
        last.mutated = false ∧ last.context.aborted = false) ∧
      (last.context.aborted = true ↔
        last.lastCleanup = some .completed ∨ ∃ error, last.lastCleanup = some (.failed error)) ∧
      (last.context.aborted = true → last.mutated = true ∧ last.isFinished = true) ∧
      (last.isFinished = true →
        turns.countP Turn.finishes = 1 ∧
        (last.lastCleanup = none ↔ ∃ turn ∈ turns, turn.finishes = true ∧ turn.Settles)) ∧
      ∀ cleanup, last.lastCleanup = some cleanup →
        ∀ further, (last.through further).lastCleanup = some cleanup := by
  intro turns last
  have testifies : last.Testifies := through_testifies mode seed occasions
  have ends : last.Ends turns := through_ends mode seed occasions
  have attempted : last.context.aborted = true →
      ∃ cleanup, last.lastCleanup = some cleanup ∧ cleanup.wasAttempted = true := by
    intro marked
    cases recorded : last.lastCleanup with
    | none => exact absurd ((testifies.unmarked recorded).symm.trans marked) Bool.noConfusion
    | some cleanup =>
        exact ⟨cleanup, rfl, (testifies.marked cleanup recorded).1.symm.trans marked⟩
  refine ⟨?_, ?_, ?_, ?_, ?_, ?_⟩
  · intro present
    obtain ⟨cleanup, recorded⟩ := Option.isSome_iff_exists.1 present
    exact isFinished_of_lastCleanup recorded
  · intro skipped
    exact (testifies.marked .skipped skipped).symm
  · constructor
    · intro marked
      obtain ⟨cleanup, recorded, sent⟩ := attempted marked
      simpa [recorded] using Cleanup.wasAttempted_iff.1 sent
    · rintro (recorded | ⟨error, recorded⟩)
      · exact (testifies.marked _ recorded).1
      · exact (testifies.marked _ recorded).1
  · intro marked
    obtain ⟨cleanup, recorded, sent⟩ := attempted marked
    exact ⟨(testifies.marked cleanup recorded).2.trans sent, isFinished_of_lastCleanup recorded⟩
  · intro closed
    refine ⟨?_, ends.unreleased closed⟩
    rw [ends.once, closed]
    rfl
  · intro cleanup recorded further
    have closed := isFinished_of_lastCleanup recorded
    rw [lastCleanup, through_phase_of_finished closed, ← lastCleanup]
    exact recorded

example :
    let client := Client.ofPool (.ofEndpoints [{}])
    let applied (start : UInt64) : Delivery :=
      { answer := fun
          | .mutate _ => .ok { context := { startTimestamp := start } }
          | call => .ok call.emptyReply }
    let last := (start .readWrite .empty).through
      [⟨.mutate {}, client, [applied 7]⟩, ⟨.mutate {}, client, [applied 8]⟩,
        ⟨.commit, client, []⟩, ⟨.discard, client, []⟩]
    last.lastCleanup = some .completed ∧ last.context.aborted = true := by
  decide

end Transaction

end GraphClient
