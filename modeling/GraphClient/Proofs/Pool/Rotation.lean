import Mathlib.Algebra.Order.Floor.Div
import Mathlib.Data.Int.CardIntervalMod
import GraphClient.Pool

namespace GraphClient

/-- What the owner of a pool does with it. -/
inductive PoolStep where
  | add (endpoint : Endpoint)
  | extend (endpoints : List Endpoint)
  | install (policy : Policy)
  | pick (draw : Nat)

/-- The endpoints that a step registers. -/
def PoolStep.registered : PoolStep → List Endpoint
  | add endpoint => [endpoint]
  | extend endpoints => endpoints
  | install _ | pick _ => []

/-- What a pick came to, and the endpoints that were registered at the time. -/
structure Pick where
  endpoints : List Endpoint
  result : Except ClientError Handle
deriving DecidableEq

namespace Pick

/-- The position that was picked, if there was one. -/
def position? (pick : Pick) : Option Nat :=
  pick.result.toOption.map Handle.position

/-- The turns that picks take: a pick that fails takes none. -/
def turns (picks : List Pick) : Nat :=
  picks.countP fun pick => pick.result.isOk

/-- A pick after this number of turns. The counter of turns begins anew after the last number that it
can hold. -/
def Follows (deadline : Option Duration) (turn : Nat) (pick : Pick) : Prop :=
  let position := turn % UInt64.size % pick.endpoints.length
  (pick.endpoints = [] → pick.result = .error .noEndpoints) ∧
    (pick.endpoints ≠ [] → ∃ endpoint, pick.endpoints[position]? = some endpoint ∧
      pick.result = .ok ⟨position, endpoint, deadline⟩)

/-- Picks one after the other, the first of them after this number of turns. -/
def InTurn (deadline : Option Duration) : Nat → List Pick → Prop
  | _, [] => True
  | turn, pick :: rest => pick.Follows deadline turn ∧ InTurn deadline (turn + turns [pick]) rest

variable {deadline : Option Duration} {turn size position : Nat} {picks first second : List Pick}

theorem turns_append (first second : List Pick) :
    turns (first ++ second) = turns first + turns second :=
  List.countP_append

/-- Picks are in turn exactly if their parts are, the later one from the turns on that the earlier
one has taken. -/
theorem inTurn_append :
    InTurn deadline turn (first ++ second) ↔
      InTurn deadline turn first ∧ InTurn deadline (turn + turns first) second := by
  induction first generalizing turn with
  | nil => exact (iff_of_eq (true_and _)).symm
  | cons pick rest inductionHypothesis =>
      have total : turns (pick :: rest) = turns [pick] + turns rest := turns_append [pick] rest
      rw [List.cons_append, InTurn, InTurn, inductionHypothesis, total, and_assoc, Nat.add_assoc]

/-- From a list of fixed length the picks choose the positions of successive turns. -/
theorem InTurn.count_position (inTurn : InTurn deadline turn picks) (positive : 0 < size)
    (fixed : ∀ pick ∈ picks, pick.endpoints.length = size)
    (counted : turn + picks.length ≤ UInt64.size) (position : Nat) :
    (picks.map position?).count (some position) =
      picks.length.count fun index => (turn + index) % size = position := by
  induction picks generalizing turn with
  | nil => rfl
  | cons pick rest inductionHypothesis =>
      obtain ⟨⟨-, served⟩, onward⟩ := inTurn
      have length : pick.endpoints.length = size := fixed pick List.mem_cons_self
      have filled : pick.endpoints ≠ [] := List.length_pos_iff.1 (length ▸ positive)
      rw [List.length_cons] at counted
      have small : turn % UInt64.size = turn := Nat.mod_eq_of_lt (by omega)
      obtain ⟨endpoint, -, result⟩ := served filled
      rw [length, small] at result
      have chosen : pick.position? = some (turn % size) := by
        rw [position?, result]
        rfl
      have taken : turns [pick] = 1 := by
        rw [turns, List.countP_singleton, result]
        rfl
      rw [taken] at onward
      have later := inductionHypothesis onward
        (fun other member => fixed other (List.mem_cons_of_mem _ member)) (by omega)
      rw [List.map_cons, List.count_cons, later, List.length_cons, Nat.count_succ', chosen]
      simp only [Nat.add_comm, Nat.add_left_comm, beq_iff_eq, Option.some.injEq, Nat.add_zero]

/-- From any turn on, the turns that come to a position are those of one class modulo the size. -/
theorem exists_turn_class (inside : position < size) (start : Nat) :
    ∃ first, ∀ index, (start + index) % size = position ↔ index ≡ first [MOD size] := by
  have positive : 0 < size := Nat.zero_lt_of_lt inside
  let first := position + (size - start % size)
  have reached : start + first ≡ position [MOD size] := by
    have round : start + first = position + size * (start / size + 1) := by
      have parts := Nat.div_add_mod start size
      have below := Nat.mod_lt start positive
      rw [Nat.mul_succ]
      omega
    rw [round]
    exact Nat.add_modEq_left_iff.2 (Nat.dvd_mul_right _ _)
  refine ⟨first, fun index => ?_⟩
  have here : (start + index) % size = position ↔ start + index ≡ position [MOD size] := by
    rw [Nat.ModEq, Nat.mod_eq_of_lt inside]
  rw [here]
  refine ⟨fun arrived => ?_, fun again => ?_⟩
  · exact Nat.ModEq.add_left_cancel' start (arrived.trans reached.symm)
  · exact (again.add_left start).trans reached

/-- Each position gets its equal share of successive turns, rounded down or up. -/
theorem count_turns (inside : position < size) (start length : Nat) :
    let times := length.count fun index => (start + index) % size = position
    times = length / size ∨ times = length ⌈/⌉ size := by
  have positive : 0 < size := Nat.zero_lt_of_lt inside
  obtain ⟨first, same⟩ := exists_turn_class inside start
  -- the class has one turn in every whole round, and one more if it begins within the last part
  simp only [same, Nat.count_modEq_card length positive first]
  by_cases more : first % size < length % size
  · right
    have parts := Nat.div_add_mod length size
    have below := Nat.mod_lt length positive
    have padded : length + size - 1 = length % size - 1 + size * (length / size + 1) := by
      rw [Nat.mul_succ]
      omega
    have little : (length % size - 1) / size = 0 := Nat.div_eq_of_lt (by omega)
    rw [if_pos more, Nat.ceilDiv_eq_add_pred_div, padded, Nat.add_mul_div_left _ _ positive,
      little, Nat.zero_add]
  · exact .inl (if_neg more ▸ Nat.add_zero _)

end Pick

namespace Pool

/-- The pool after it has gone round its endpoints for this number of calls. -/
def turning (endpoints : List Endpoint) (deadline : Option Duration) (count : Nat) : Pool :=
  { endpoints, policy := .roundRobin (UInt64.ofNat count), deadline }

/-- One step of its owner, and the picks that it shows. -/
def step (pool : Pool) : PoolStep → List Pick × Pool
  | .add endpoint => ([], pool.add endpoint)
  | .extend endpoints => ([], pool.extend endpoints)
  | .install policy => ([], pool.withPolicy policy)
  | .pick draw =>
    let (result, after) := pool.handle draw
    ([⟨pool.endpoints, result⟩], after)

/-- Takes the steps in order. -/
def run (pool : Pool) : List PoolStep → List Pick × Pool
  | [] => ([], pool)
  | step :: rest =>
    let (picks, after) := pool.step step
    let (more, last) := after.run rest
    (picks ++ more, last)

theorem run_cons (pool : Pool) (step : PoolStep) (rest : List PoolStep) :
    pool.run (step :: rest) =
      ((pool.step step).1 ++ ((pool.step step).2.run rest).1, ((pool.step step).2.run rest).2) :=
  rfl

theorem run_append (pool : Pool) (first second : List PoolStep) :
    pool.run (first ++ second) =
      ((pool.run first).1 ++ ((pool.run first).2.run second).1,
        ((pool.run first).2.run second).2) := by
  induction first generalizing pool with
  | nil => rfl
  | cons step rest inductionHypothesis =>
      rw [List.cons_append, run_cons, inductionHypothesis, run_cons, List.append_assoc]

/-- A step registers its endpoints after the others and leaves the deadline as it is. -/
theorem step_keeps (pool : Pool) (step : PoolStep) :
    (pool.step step).2.endpoints = pool.endpoints ++ step.registered ∧
      (pool.step step).2.deadline = pool.deadline := by
  cases step with
  | add | extend => exact ⟨rfl, rfl⟩
  | install policy => exact ⟨(List.append_nil _).symm, rfl⟩
  | pick draw =>
      have after : (pool.step (.pick draw)).2 = (pool.pick draw).2 := pool.handle_after draw
      rw [after, PoolStep.registered, List.append_nil]
      exact ⟨pool.pick_endpoints draw, pool.pick_deadline draw⟩

/-- A run adds the endpoints that it registers, in their order, and leaves the deadline. -/
theorem run_keeps (pool : Pool) (steps : List PoolStep) :
    (pool.run steps).2.endpoints = pool.endpoints ++ steps.flatMap PoolStep.registered ∧
      (pool.run steps).2.deadline = pool.deadline := by
  induction steps generalizing pool with
  | nil => exact ⟨(List.append_nil _).symm, rfl⟩
  | cons step rest inductionHypothesis =>
      obtain ⟨endpoints, deadline⟩ := pool.step_keeps step
      obtain ⟨later, still⟩ := inductionHypothesis (pool.step step).2
      rw [run_cons, later, endpoints, List.append_assoc, List.flatMap_cons]
      exact ⟨rfl, still.trans deadline⟩

section Turning

variable {endpoints : List Endpoint} {deadline : Option Duration} {count : Nat}

/-- A pick takes one turn and yields the endpoint whose turn it is. -/
theorem pick_turning (filled : endpoints ≠ []) (draw : Nat) :
    ∃ endpoint, endpoints[count % UInt64.size % endpoints.length]? = some endpoint ∧
      (turning endpoints deadline count).pick draw =
        (some (count % UInt64.size % endpoints.length, endpoint),
          turning endpoints deadline (count + 1)) := by
  have positive : 0 < endpoints.length := List.length_pos_iff.2 filled
  have inside : count % UInt64.size % endpoints.length < endpoints.length := Nat.mod_lt _ positive
  have turn : (UInt64.ofNat count).toNat = count % UInt64.size := UInt64.toNat_ofNat'
  have next : UInt64.ofNat count + 1 = UInt64.ofNat (count + 1) := by
    rw [UInt64.ofNat_add]
    rfl
  have selected : (Policy.roundRobin (UInt64.ofNat count)).select endpoints.length draw =
      (some (count % UInt64.size % endpoints.length),
        .roundRobin (UInt64.ofNat (count + 1))) := by
    rw [Policy.select, if_neg (Nat.ne_of_gt positive), turn, next]
  refine ⟨endpoints[count % UInt64.size % endpoints.length], List.getElem?_eq_getElem inside, ?_⟩
  simp only [pick, turning, size, selected, Option.bind_some, List.getElem?_eq_getElem inside,
    Option.map_some]

/-- Whatever a step does but for replacing the policy, its picks go on in turn. -/
theorem step_turning {step : PoolStep} (kept : ∀ policy, step ≠ .install policy) :
    let pool := turning endpoints deadline count
    Pick.InTurn deadline count (pool.step step).1 ∧
      (pool.step step).2 =
        turning (endpoints ++ step.registered) deadline
          (count + Pick.turns (pool.step step).1) := by
  dsimp only
  cases step with
  | add | extend => exact ⟨trivial, rfl⟩
  | install policy => exact absurd rfl (kept policy)
  | pick draw =>
      rw [PoolStep.registered, List.append_nil]
      by_cases filled : endpoints = []
      · subst filled
        exact ⟨⟨⟨fun _ => rfl, fun filled => absurd rfl filled⟩, trivial⟩, rfl⟩
      · obtain ⟨endpoint, found, picked⟩ := pick_turning filled draw
        rw [step, handle, picked]
        exact ⟨⟨⟨fun empty => absurd empty filled, fun _ => ⟨endpoint, found, rfl⟩⟩, trivial⟩, rfl⟩

/-- While the policy is not replaced, all picks of a run are in turn. -/
theorem run_turning {steps : List PoolStep} (kept : ∀ policy, .install policy ∉ steps) :
    Pick.InTurn deadline count ((turning endpoints deadline count).run steps).1 := by
  induction steps generalizing endpoints count with
  | nil => trivial
  | cons step rest inductionHypothesis =>
      have now := @step_turning endpoints deadline count step fun policy same =>
        kept policy (same ▸ List.mem_cons_self)
      rw [run_cons, now.2]
      exact Pick.inTurn_append.2 ⟨now.1, inductionHypothesis fun policy member =>
        kept policy (List.mem_cons_of_mem _ member)⟩

end Turning

/-- Round robin on a list of endpoints that grows. However a pool has been used before, with a fresh
policy its picks go round the endpoints from the first turn on, each by the list as it is at the time;
a pick without endpoints fails and takes no turn. Of the picks of a window in which the list does not
grow, each position gets its equal share, rounded down or up. -/
theorem picks_go_round (pool : Pool) (earlier later : List PoolStep)
    (kept : ∀ policy, .install policy ∉ later) :
    let fresh := Selection.roundRobin.policy
    let picks := (((pool.run earlier).2.withPolicy fresh).run later).1
    let last := (((pool.run earlier).2.withPolicy fresh).run later).2
    pool.run (earlier ++ .install fresh :: later) = ((pool.run earlier).1 ++ picks, last) ∧
      last.endpoints = pool.endpoints ++ (earlier ++ later).flatMap PoolStep.registered ∧
      (∀ before pick after, picks = before ++ pick :: after →
        let position := Pick.turns before % pick.endpoints.length
        (pick.endpoints = [] → pick.result = .error .noEndpoints) ∧
          (pick.endpoints ≠ [] → Pick.turns before < UInt64.size →
            ∃ endpoint, pick.endpoints[position]? = some endpoint ∧
              pick.result = .ok ⟨position, endpoint, pool.deadline⟩)) ∧
      ∀ before window after, picks = before ++ window ++ after →
        Pick.turns before + window.length ≤ UInt64.size →
        ∀ size, (∀ pick ∈ window, pick.endpoints.length = size) → ∀ position < size,
          let times := (window.map Pick.position?).count (some position)
          times = window.length / size ∨ times = window.length ⌈/⌉ size := by
  intro fresh picks last
  obtain ⟨endpoints, deadline⟩ := pool.run_keeps earlier
  obtain ⟨registered, -⟩ := ((pool.run earlier).2.withPolicy fresh).run_keeps later
  have installed : (pool.run earlier).2.withPolicy fresh =
      turning (pool.run earlier).2.endpoints pool.deadline 0 := by
    rw [← deadline]
    rfl
  have inTurn : Pick.InTurn pool.deadline 0 picks := by
    dsimp only [picks]
    rw [installed]
    exact run_turning kept
  refine ⟨?_, ?_, ?_, ?_⟩
  · rw [run_append, run_cons]
    rfl
  · rw [List.flatMap_append, ← List.append_assoc, ← endpoints]
    exact registered
  · intro before pick after split
    rw [split, Pick.inTurn_append, Nat.zero_add] at inTurn
    obtain ⟨-, ⟨unserved, served⟩, -⟩ := inTurn
    refine ⟨unserved, fun filled counted => ?_⟩
    rw [Nat.mod_eq_of_lt counted] at served
    exact served filled
  · intro before window after split counted size fixed position inside
    rw [split, Pick.inTurn_append, Pick.inTurn_append, Nat.zero_add] at inTurn
    obtain ⟨⟨-, within⟩, -⟩ := inTurn
    have positive : 0 < size := Nat.zero_lt_of_lt inside
    rw [within.count_position positive fixed counted]
    exact Pick.count_turns inside _ _

/-- Three picks from two endpoints and a fourth one from three, on a pool that has been used before. -/
theorem picks_go_round_of_growing_list :
    let a : Endpoint := { label := "a" }
    let b : Endpoint := { label := "b" }
    let c : Endpoint := { label := "c" }
    let used := ((ofEndpoints [a]).run [.pick 5, .add b]).2
    let later : List PoolStep := [.pick 0, .pick 0, .pick 0, .add c, .pick 0]
    let window : List Pick :=
      [⟨[a, b], .ok ⟨0, a, none⟩⟩, ⟨[a, b], .ok ⟨1, b, none⟩⟩, ⟨[a, b], .ok ⟨0, a, none⟩⟩]
    let last : Pick := ⟨[a, b, c], .ok ⟨0, a, none⟩⟩
    (∀ policy, .install policy ∉ later) ∧
      ((used.withPolicy Selection.roundRobin.policy).run later).1 = window ++ [last] ∧
      (∃ endpoint, last.endpoints[3 % 3]? = some endpoint ∧
        last.result = .ok ⟨3 % 3, endpoint, none⟩) ∧
      ((window.map Pick.position?).count (some 1) = 3 / 2 ∨
        (window.map Pick.position?).count (some 1) = 3 ⌈/⌉ 2) := by
  intro a b c used later window last
  have kept : ∀ policy, .install policy ∉ later := by simp [later]
  have shown : ((used.withPolicy Selection.roundRobin.policy).run later).1 = window ++ [last] := by
    decide
  obtain ⟨-, -, turn, fair⟩ := picks_go_round (ofEndpoints [a]) [.pick 5, .add b] later kept
  obtain ⟨-, served⟩ := turn window last [] shown
  refine ⟨kept, shown, served (List.cons_ne_nil _ _) (by decide), ?_⟩
  exact fair [] window [last] shown (by decide) 2 (by simp [window]) 1 (by decide)

end Pool

end GraphClient
