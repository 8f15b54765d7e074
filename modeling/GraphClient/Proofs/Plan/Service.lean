import GraphClient.Proofs.Plan.Course

namespace GraphClient

namespace Policy

/-- The policies that come with the client, in contrast to those that a caller makes up. -/
def isBuiltIn : Policy → Bool
  | random | roundRobin _ => true
  | listed _ => false

/-- A policy stays of its kind when it selects. -/
theorem isBuiltIn_select (policy : Policy) (size draw : Nat) :
    (policy.select size draw).2.isBuiltIn = policy.isBuiltIn := by
  cases policy with
  | random => rfl
  | roundRobin next =>
      rw [select]
      split <;> rfl
  | listed picks => rfl

/-- A policy of the client always finds a position. -/
theorem exists_select {policy : Policy} (builtIn : policy.isBuiltIn = true) {size : Nat}
    (filled : size ≠ 0) (draw : Nat) : ∃ position, (policy.select size draw).1 = some position := by
  cases policy with
  | random => exact ⟨draw % size, by rw [select, if_neg filled]⟩
  | roundRobin next => exact ⟨next.toNat % size, by rw [select, if_neg filled]⟩
  | listed picks => cases builtIn

end Policy

namespace Pool

/-- There are endpoints, and the policy chooses among all of them. -/
structure Serves (pool : Pool) : Prop where
  filled : pool.endpoints ≠ []
  builtIn : pool.policy.isBuiltIn = true

variable {pool : Pool}

theorem pick_fst (pool : Pool) (draw : Nat) :
    (pool.pick draw).1 =
      (pool.policy.select pool.size draw).1.bind fun position =>
        pool.endpoints[position]?.map (position, ·) :=
  rfl

/-- A pool that serves goes on serving. -/
theorem Serves.pick (serves : pool.Serves) (draw : Nat) : (pool.pick draw).2.Serves where
  filled := serves.filled
  builtIn := (pool.policy.isBuiltIn_select pool.size draw).trans serves.builtIn

/-- A pool that serves has an endpoint for the next call, whatever is drawn. -/
theorem Serves.exists_pick (serves : pool.Serves) (draw : Nat) :
    ∃ position endpoint, (pool.pick draw).1 = some (position, endpoint) := by
  have filled : pool.size ≠ 0 := mt List.length_eq_zero_iff.1 serves.filled
  obtain ⟨position, selected⟩ := Policy.exists_select serves.builtIn filled draw
  have bound : position < pool.endpoints.length := Policy.lt_of_select selected
  refine ⟨position, pool.endpoints[position], ?_⟩
  rw [pick_fst, selected, Option.bind_some, List.getElem?_eq_getElem bound]
  rfl

/-- Nothing can be chosen among no endpoints. -/
theorem pick_of_empty (empty : pool.endpoints = []) (draw : Nat) : (pool.pick draw).1 = none := by
  rw [pick_fst, empty]
  cases (pool.policy.select pool.size draw).1 <;> rfl

end Pool

/-- No endpoint was selected for the call of the event. -/
def Event.IsUnsent (event : Event) : Prop :=
  ∃ call, event = .unsent call

namespace Surroundings

variable {surroundings : Surroundings}

/-- A pool that serves sends the call to one of its endpoints. -/
theorem exchange_of_serves (serves : surroundings.client.pool.Serves) (message : Call) :
    ∃ position endpoint,
      surroundings.exchange message =
        let delivery := surroundings.traffic.inbox.headD {}
        let answer := delivery.answerWithin surroundings.client.pool.deadline message
        (answer.mapError .refused,
          { surroundings with
            client :=
              { surroundings.client with pool := (surroundings.client.pool.pick delivery.draw).2 }
            traffic :=
              { inbox := surroundings.traffic.inbox.tail
                exchanges :=
                  surroundings.traffic.exchanges ++ [⟨position, endpoint, message, answer⟩] } }) := by
  obtain ⟨position, endpoint, selected⟩ :=
    serves.exists_pick (surroundings.traffic.inbox.headD {}).draw
  refine ⟨position, endpoint, ?_⟩
  have deadline := surroundings.client.pool.pick_deadline (surroundings.traffic.inbox.headD {}).draw
  simp only [exchange, Pool.exchange]
  generalize surroundings.client.pool.pick (surroundings.traffic.inbox.headD {}).draw = picked at *
  obtain ⟨choice, pool⟩ := picked
  dsimp only at selected deadline
  subst selected
  rw [← deadline]

/-- A pool without endpoints sends nothing. -/
theorem exchange_of_empty (empty : surroundings.client.pool.endpoints = []) (message : Call) :
    (surroundings.exchange message).2.traffic = surroundings.traffic ∧
      (surroundings.exchange message).2.client.pool.endpoints = [] := by
  have unselected := Pool.pick_of_empty empty (surroundings.traffic.inbox.headD {}).draw
  have endpoints :=
    surroundings.client.pool.pick_endpoints (surroundings.traffic.inbox.headD {}).draw
  simp only [exchange, Pool.exchange]
  generalize surroundings.client.pool.pick (surroundings.traffic.inbox.headD {}).draw = picked at *
  obtain ⟨choice, pool⟩ := picked
  dsimp only at unselected endpoints
  subst unselected
  exact ⟨rfl, endpoints.trans empty⟩

end Surroundings

namespace Plan

variable {Result : Type}

/-- On a pool that serves, running a plan takes a course on which every call is sent. -/
theorem run_yields_sent (plan : Plan Result) (surroundings : Surroundings)
    (serves : surroundings.client.pool.Serves) :
    ∃ events, plan.Yields events (plan.run surroundings).1 ∧
      surroundings.After events (plan.run surroundings).2 ∧
      ∀ event ∈ events, ¬ event.IsUnsent := by
  induction plan generalizing surroundings with
  | done result => exact ⟨[], .stay _, surroundings.after_nil, by simp⟩
  | call message resume inductionHypothesis =>
      obtain ⟨position, endpoint, exchanged⟩ := Surroundings.exchange_of_serves serves message
      obtain ⟨event, got, early⟩ := surroundings.exchange_gets message
      have sent : ¬ event.IsUnsent := by
        rintro ⟨call, rfl⟩
        have grown := early.exchanges
        rw [exchanged] at grown
        simp at grown
      have serving : (surroundings.exchange message).2.client.pool.Serves := by
        rw [exchanged]
        exact serves.pick _
      obtain ⟨events, yields, late, others⟩ :=
        inductionHypothesis (surroundings.exchange message).1 (surroundings.exchange message).2 serving
      refine ⟨event :: events, .call got yields, Surroundings.after_append early late, ?_⟩
      exact List.forall_mem_cons.2 ⟨sent, others⟩
  | fold update rest inductionHypothesis =>
      obtain ⟨events, yields, late, others⟩ :=
        inductionHypothesis (surroundings.fold update) serves
      refine ⟨.folded update :: events, .fold yields,
        Surroundings.after_append (surroundings.fold_after update) late, ?_⟩
      refine List.forall_mem_cons.2 ⟨?_, others⟩
      rintro ⟨call, impossible⟩
      cases impossible

/-- On a pool without endpoints, running a plan sends nothing. -/
theorem run_of_empty (plan : Plan Result) (surroundings : Surroundings)
    (empty : surroundings.client.pool.endpoints = []) :
    (plan.run surroundings).2.traffic = surroundings.traffic := by
  induction plan generalizing surroundings with
  | done result => rfl
  | call message resume inductionHypothesis =>
      obtain ⟨unsent, still⟩ := Surroundings.exchange_of_empty empty message
      rw [run_call, inductionHypothesis _ _ still, unsent]
  | fold update rest inductionHypothesis =>
      rw [run_fold]
      exact inductionHypothesis (surroundings.fold update) empty

end Plan

end GraphClient
