import GraphClient.Proofs.Plan.Service

namespace GraphClient

/-- The answer that this delivery brings to a call, within the deadline. -/
def Delivery.brings (delivery : Delivery) (deadline : Option Duration) (call : Call) :
    Except CallFailure call.Reply :=
  (delivery.answerWithin deadline call).mapError .refused

/-- What carrying out a plan comes to: its result, the calls that it makes, the watermarks that it
folds, and the deliveries that it leaves. -/
structure Performance (Result : Type) where
  result : Result
  calls : List Call := []
  folds : List Watermark := []
  unused : List Delivery := []

namespace Performance

variable {Result : Type}

/-- The performance with these calls and folds before its own. -/
def preceded (performance : Performance Result) (calls : List Call) (folds : List Watermark) :
    Performance Result :=
  { performance with calls := calls ++ performance.calls, folds := folds ++ performance.folds }

@[simp] theorem preceded_preceded (performance : Performance Result) (calls others : List Call)
    (folds more : List Watermark) :
    (performance.preceded calls folds).preceded others more =
      performance.preceded (others ++ calls) (more ++ folds) := by
  simp [preceded]

end Performance

namespace Plan

variable {Result : Type}

/-- Carries out a plan on its deliveries alone: which node gets a call has no bearing on what comes
of the plan, and neither has the shared watermark, which a plan only writes. -/
def replay (deadline : Option Duration) : Plan Result → List Delivery → Performance Result
  | done result, inbox => { result, unused := inbox }
  | call message resume, inbox =>
    let answer := (inbox.headD {}).brings deadline message
    ((resume answer).replay deadline inbox.tail).preceded [message] []
  | fold update rest, inbox => (rest.replay deadline inbox).preceded [] [update]

/-- The second of two plans goes on with the deliveries that the first one leaves. -/
theorem replay_bind {Other : Type} (deadline : Option Duration) (plan : Plan Other)
    (next : Other → Plan Result) (inbox : List Delivery) :
    (plan.bind next).replay deadline inbox =
      let first := plan.replay deadline inbox
      ((next first.result).replay deadline first.unused).preceded first.calls first.folds := by
  induction plan generalizing inbox with
  | done result => rfl
  | call message resume inductionHypothesis =>
      simp only [bind, replay, inductionHypothesis, Performance.preceded_preceded]
      rfl
  | fold update rest inductionHypothesis =>
      simp only [bind, replay, inductionHypothesis, Performance.preceded_preceded]
      rfl

/-- On every pool that serves, running a plan shows what its replay says. -/
theorem run_replay (plan : Plan Result) (surroundings : Surroundings)
    (serves : surroundings.client.pool.Serves) :
    let performance := plan.replay surroundings.client.pool.deadline surroundings.traffic.inbox
    let (result, after) := plan.run surroundings
    result = performance.result ∧
      after.traffic.exchanges.map (fun exchange => exchange.call) =
        surroundings.traffic.exchanges.map (fun exchange => exchange.call) ++ performance.calls ∧
      after.folds = surroundings.folds ++ performance.folds := by
  induction plan generalizing surroundings with
  | done result => exact ⟨rfl, (List.append_nil _).symm, (List.append_nil _).symm⟩
  | call message resume inductionHypothesis =>
      obtain ⟨position, endpoint, exchanged⟩ := Surroundings.exchange_of_serves serves message
      have deadline :=
        surroundings.client.pool.pick_deadline (surroundings.traffic.inbox.headD {}).draw
      have onward := inductionHypothesis (surroundings.exchange message).1
        (surroundings.exchange message).2 (by rw [exchanged]; exact serves.pick _)
      rw [exchanged] at onward
      dsimp only at onward
      rw [deadline] at onward
      obtain ⟨result, calls, folds⟩ := onward
      rw [run_call, exchanged]
      refine ⟨result, ?_, folds⟩
      rw [calls]
      simp [replay, Performance.preceded, Delivery.brings]
  | fold update rest inductionHypothesis =>
      obtain ⟨result, calls, folds⟩ := inductionHypothesis (surroundings.fold update) serves
      refine ⟨result, calls, ?_⟩
      rw [folds]
      simp [replay, Performance.preceded, Surroundings.fold]

end Plan

end GraphClient
