import GraphClient.Proofs.Client.StepPlan

namespace GraphClient

/-- The delivery whose answer, if it takes longer than the limit, is that the call was not completed in
time. -/
def Delivery.cutOff (limit : Duration) (delivery : Delivery) : Delivery :=
  if limit < delivery.delay then
    { delivery with
      answer := fun _ =>
        .error ⟨.deadlineExceeded, "call did not complete within " ++ limit.text⟩ }
  else delivery

namespace Delivery

variable {limit : Duration}

theorem draw_cutOff (delivery : Delivery) : (delivery.cutOff limit).draw = delivery.draw := by
  rw [cutOff]
  split <;> rfl

/-- A delivery that was cut off brings without a deadline what it brought with one. -/
theorem answerWithin_cutOff (delivery : Delivery) (call : Call) :
    (delivery.cutOff limit).answerWithin none call = delivery.answerWithin (some limit) call := by
  rw [cutOff, answerWithin, answerWithin]
  split <;> rfl

/-- Without further deliveries the next answer comes at once, and no limit cuts it off. -/
theorem headD_map_cutOff (inbox : List Delivery) :
    (inbox.map (cutOff limit)).headD {} = (inbox.headD {}).cutOff limit := by
  cases inbox with
  | nil => exact (if_neg (Nat.not_lt_zero limit.nanoseconds)).symm
  | cons delivery rest => rfl

end Delivery

def Pool.withoutDeadline (pool : Pool) : Pool :=
  { pool with deadline := none }

theorem Pool.withDeadline_of_pos {limit : Duration} (positive : .zero < limit) (pool : Pool) :
    pool.withDeadline limit = { pool with deadline := some limit } := by
  have counted : limit.isZero = false := beq_false_of_ne (Nat.ne_of_gt positive)
  rw [withDeadline, counted]
  rfl

theorem Pool.pick_withoutDeadline (pool : Pool) (draw : Nat) :
    pool.withoutDeadline.pick draw = ((pool.pick draw).1, (pool.pick draw).2.withoutDeadline) :=
  rfl

def Client.withoutDeadline (client : Client) : Client :=
  { client with pool := client.pool.withoutDeadline }

namespace Surroundings

variable {surroundings : Surroundings} {limit : Duration}

/-- The surroundings without a deadline, where late answers have been cut off beforehand. -/
def relaxed (limit : Duration) (surroundings : Surroundings) : Surroundings :=
  { surroundings with
    client := surroundings.client.withoutDeadline
    traffic :=
      { surroundings.traffic with inbox := surroundings.traffic.inbox.map (.cutOff limit) } }

theorem record_relaxed (surroundings : Surroundings) (outcome : Outcome) :
    (surroundings.relaxed limit).record outcome = surroundings.record outcome := by
  rw [record, record, relaxed]
  simp

/-- A call gets the same answer, be it cut off by the deadline or beforehand. -/
theorem exchange_relaxed (timed : surroundings.client.pool.deadline = some limit) (call : Call) :
    (surroundings.relaxed limit).exchange call =
        ((surroundings.exchange call).1, (surroundings.exchange call).2.relaxed limit) ∧
      (surroundings.exchange call).2.client.pool.deadline = some limit := by
  obtain ⟨⟨pool, shared, timeout⟩, ⟨inbox, exchanges⟩, folds⟩ := surroundings
  have deadline : (pool.pick (inbox.headD {}).draw).2.deadline = some limit := timed
  simp only [exchange, Pool.exchange, relaxed, Client.withoutDeadline, Delivery.headD_map_cutOff,
    Delivery.draw_cutOff, Pool.pick_withoutDeadline]
  generalize pool.pick (inbox.headD {}).draw = picked at deadline ⊢
  obtain ⟨choice, pool⟩ := picked
  cases choice with
  | none => exact ⟨rfl, deadline⟩
  | some chosen =>
      dsimp only at deadline ⊢
      rw [deadline]
      refine ⟨?_, rfl⟩
      dsimp only [Pool.withoutDeadline]
      rw [Delivery.answerWithin_cutOff, List.map_tail]

end Surroundings

/-- A plan comes to the same with a deadline and without it, and it does not change the deadline. -/
theorem Plan.run_relaxed {Result : Type} (plan : Plan Result) {surroundings : Surroundings}
    {limit : Duration} (timed : surroundings.client.pool.deadline = some limit) :
    plan.run (surroundings.relaxed limit) =
        ((plan.run surroundings).1, (plan.run surroundings).2.relaxed limit) ∧
      (plan.run surroundings).2.client.pool.deadline = some limit := by
  induction plan generalizing surroundings with
  | done result => exact ⟨rfl, timed⟩
  | call message resume inductionHypothesis =>
      obtain ⟨same, still⟩ := surroundings.exchange_relaxed timed message
      rw [run_call, run_call, same]
      exact inductionHypothesis _ still
  | fold update rest inductionHypothesis =>
      rw [run_fold, run_fold]
      exact @inductionHypothesis (surroundings.fold update) timed

namespace Session

variable {session : Session} {limit : Duration}

/-- The session on a pool to which this deadline has been given. -/
def withDeadline (session : Session) (limit : Duration) : Session :=
  { session with
    client := { session.client with pool := session.client.pool.withDeadline limit } }

/-- The session on a pool to which no deadline has been given. -/
def withoutDeadline (session : Session) : Session :=
  { session with client := session.client.withoutDeadline }

theorem withDeadline_withoutDeadline (positive : .zero < limit)
    (timed : session.client.pool.deadline = some limit) :
    session.withoutDeadline.withDeadline limit = session := by
  obtain ⟨flavour, ⟨⟨endpoints, policy, deadline⟩, shared, timeout⟩, transactions⟩ := session
  subst timed
  rw [withDeadline, Pool.withDeadline_of_pos positive]
  rfl

/-- The step with its deliveries, among which the late ones have been cut off. -/
def cutOff (limit : Duration) (taken : Step × List Delivery) : Step × List Delivery :=
  (taken.1, taken.2.map (.cutOff limit))

/-- The plan of a step does not ask for the deadline. -/
theorem plan_withoutDeadline (session : Session) (step : Step) :
    session.withoutDeadline.plan step = session.plan step := by
  cases step <;> rfl

/-- A step shows without a deadline, on deliveries that were cut off, what it shows with one. -/
theorem step_withoutDeadline (timed : session.client.pool.deadline = some limit)
    (inbox : List Delivery) (step : Step) :
    session.withoutDeadline.step (inbox.map (.cutOff limit)) step =
        ((session.step inbox step).1, (session.step inbox step).2.withoutDeadline) ∧
      (session.step inbox step).2.client.pool.deadline = some limit := by
  obtain ⟨same, still⟩ :=
    @Plan.run_relaxed _ (session.plan step) (session.surroundings inbox) limit timed
  have opened : session.withoutDeadline.surroundings (inbox.map (.cutOff limit)) =
      (session.surroundings inbox).relaxed limit := rfl
  rw [step_eq_carryOut, step_eq_carryOut, carryOut, plan_withoutDeadline, opened, same]
  dsimp only
  rw [Surroundings.record_relaxed]
  exact ⟨rfl, still⟩

/-- A run shows without a deadline, on deliveries that were cut off, what it shows with one. -/
theorem run_withoutDeadline (timed : session.client.pool.deadline = some limit)
    (script : List (Step × List Delivery)) :
    session.withoutDeadline.run (script.map (cutOff limit)) =
        ((session.run script).1, (session.run script).2.withoutDeadline) ∧
      (session.run script).2.client.pool.deadline = some limit := by
  induction script generalizing session with
  | nil => exact ⟨rfl, timed⟩
  | cons taken rest inductionHypothesis =>
      obtain ⟨step, inbox⟩ := taken
      obtain ⟨same, still⟩ := step_withoutDeadline timed inbox step
      obtain ⟨onward, last⟩ := inductionHypothesis still
      rw [List.map_cons, cutOff, run, run, same]
      dsimp only
      rw [onward]
      exact ⟨rfl, last⟩

/-- A run on a pool with a deadline shows the same, and leaves the same transactions and the same
shared watermark, as the run on a pool without one in which all late answers have been cut off
beforehand. A deadline of zero is none. -/
theorem run_withDeadline (session : Session) (limit : Duration)
    (script : List (Step × List Delivery)) :
    (Duration.zero < limit →
        (session.withDeadline limit).run script =
          let (records, after) := session.withoutDeadline.run (script.map (cutOff limit))
          (records, after.withDeadline limit)) ∧
      (session.withDeadline .zero).run script = session.withoutDeadline.run script := by
  refine ⟨?_, rfl⟩
  intro positive
  have timed : (session.withDeadline limit).client.pool.deadline = some limit := by
    rw [withDeadline, Pool.withDeadline_of_pos positive]
  obtain ⟨same, still⟩ := run_withoutDeadline timed script
  have bare : (session.withDeadline limit).withoutDeadline = session.withoutDeadline := rfl
  rw [← bare, same]
  exact Prod.ext rfl (withDeadline_withoutDeadline positive still).symm

/-- When the deadline cuts off a write and then the abort that releases the transaction, the record of
the cleanup tells of the abort. -/
theorem run_withDeadline_of_late_abort :
    let session : Session := { client := .ofPool (.ofEndpoints [{}]) }
    let limit := Duration.ofMilliseconds 20
    let late : Delivery := { delay := .ofMilliseconds 21 }
    let script : List (Step × List Delivery) :=
      [(.begin "" .readWrite none false, []), (.operate "" (.mutate {}), []),
        (.operate "" (.mutate {}), [late, late])]
    Duration.zero < limit ∧
      (session.withDeadline limit).run script =
        (let (records, after) := session.withoutDeadline.run (script.map (cutOff limit))
        (records, after.withDeadline limit)) ∧
      (((session.withDeadline limit).run script).2.transaction? "").bind
          Transaction.lastCleanup =
        some (.failed
          (.transport ⟨.deadlineExceeded, "call did not complete within 20ms"⟩)) := by
  intro session limit late script
  have positive : Duration.zero < limit := by decide
  exact ⟨positive, (session.run_withDeadline limit script).1 positive, by decide⟩

end Session

end GraphClient
