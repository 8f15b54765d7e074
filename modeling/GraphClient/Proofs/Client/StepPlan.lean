import GraphClient.Client.Session

namespace GraphClient

namespace Session

/-- Lets go of the transaction of this name, if there is one. -/
def letGo (session : Session) (name : String) (mayNotBlock : Bool) : Plan Unit :=
  match session.transaction? name with
  | none => .done ()
  | some old => (dropPlan session.flavour mayNotBlock old).bind fun _ => .done ()

/-- The plan of a step, whose result holds the outcome and the transactions afterwards. It says what
the step asks of the nodes and folds, whichever pool the client has. -/
def plan (session : Session) : Step → Plan (Outcome × SortedMap String Transaction)
  | .clone _ | .look => .done (.done, session.transactions)
  | .begin name mode seed mayNotBlock =>
    (session.letGo name mayNotBlock).bind fun _ =>
      .done (.done, session.transactions.insert name (session.client.begin mode seed))
  | .drop name mayNotBlock =>
    (session.letGo name mayNotBlock).bind fun _ =>
      match session.transaction? name with
      | none => .done (.dropped false, session.transactions)
      | some _ => .done (.dropped true, session.transactions.erase name)
  | .operate name operation =>
    match session.transaction? name with
    | none => .done (.unknownTransaction, session.transactions)
    | some transaction =>
      (transaction.perform operation).bind fun (outcome, after) =>
        .done (outcome, session.transactions.insert name after)
  | .alter change =>
    (Client.alter change).bind fun result =>
      .done (.ofExcept .altered result, session.transactions)
  | .checkVersion =>
    Client.checkVersion.bind fun result => .done (.ofExcept .version result, session.transactions)
  | .close timeout behaviours =>
    .done (.closed (session.client.close timeout behaviours), session.transactions)
  | .shutdown behaviours =>
    .done (.closed (session.client.shutdown behaviours), session.transactions)

/-- Carries out such a plan with the deliveries of its calls. -/
def carryOut (session : Session) (inbox : List Delivery)
    (plan : Plan (Outcome × SortedMap String Transaction)) : Record × Session :=
  let ((outcome, transactions), surroundings) := plan.run (session.surroundings inbox)
  (surroundings.record outcome, { session.after surroundings with transactions })

/-- Every step of a session carries out its plan. -/
theorem step_eq_carryOut (session : Session) (inbox : List Delivery) (step : Step) :
    session.step inbox step = session.carryOut inbox (session.plan step) := by
  cases step with
  | clone | look | close | shutdown => rfl
  | begin name mode seed mayNotBlock =>
      rw [carryOut, plan, Plan.run_bind, Session.step, begin, letGo]
      cases session.transaction? name with
      | none => rfl
      | some old =>
          dsimp only
          rw [Plan.run_bind]
          rfl
  | drop name mayNotBlock =>
      rw [carryOut, plan, Plan.run_bind, Session.step, drop, letGo]
      cases session.transaction? name with
      | none => rfl
      | some old =>
          dsimp only
          rw [Plan.run_bind]
          rfl
  | operate name operation =>
      rw [carryOut, plan, Session.step, operate]
      cases session.transaction? name with
      | none => rfl
      | some transaction =>
          dsimp only
          rw [Plan.run_bind]
          rfl
  | alter change =>
      rw [carryOut, plan, Plan.run_bind]
      rfl
  | checkVersion =>
      rw [carryOut, plan, Plan.run_bind]
      rfl

end Session

end GraphClient
