import GraphClient.Call

namespace GraphClient

/-- A plan says what an operation does, whatever the network answers: it makes calls, folds
watermarks into the sink that collects them, and ends with a result. Plans are data, so that one
definition of an operation serves every way to carry it out. -/
inductive Plan (Result : Type) where
  | done (result : Result)
  | call (call : Call) (resume : Except CallFailure call.Reply → Plan Result)
  | fold (update : Watermark) (rest : Plan Result)

namespace Plan

/-- Goes on with another plan from the result. -/
def bind {First Second : Type} (plan : Plan First) (next : First → Plan Second) : Plan Second :=
  match plan with
  | done result => next result
  | call message resume => call message fun answer => (resume answer).bind next
  | fold update rest => fold update (rest.bind next)

instance : Monad Plan where
  pure := done
  bind := bind

@[simp] theorem bind_done {Result : Type} (plan : Plan Result) : plan.bind done = plan := by
  induction plan with
  | done result => rfl
  | call message resume inductionHypothesis => simp [bind, inductionHypothesis]
  | fold update rest inductionHypothesis => simp [bind, inductionHypothesis]

/-- Plans follow each other in whichever way they are grouped. -/
theorem bind_assoc {First Second Third : Type} (plan : Plan First) (next : First → Plan Second)
    (last : Second → Plan Third) :
    (plan.bind next).bind last = plan.bind fun result => (next result).bind last := by
  induction plan with
  | done result => rfl
  | call message resume inductionHypothesis => simp [bind, inductionHypothesis]
  | fold update rest inductionHypothesis => simp [bind, inductionHypothesis]

end Plan

end GraphClient
