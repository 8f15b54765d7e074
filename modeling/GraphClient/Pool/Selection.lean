import GraphClient.Failure

namespace GraphClient

/-- A policy chooses the endpoint of each call by its position in the list of endpoints. It is a
value that its own choices change: round robin counts its turns, a listed policy uses up its picks,
and random selection takes the number that is drawn for the call. -/
inductive Policy where
  | random
  | roundRobin (next : UInt64)
  | listed (picks : List (Option Nat))
deriving DecidableEq, Inhabited

namespace Policy

/-- Chooses a position among `size` endpoints. Without endpoints, round robin keeps its turn. -/
def select (policy : Policy) (size draw : Nat) : Option Nat × Policy :=
  match policy with
  | random => (if size = 0 then none else some (draw % size), random)
  | roundRobin next =>
    if size = 0 then (none, roundRobin next)
    else (some (next.toNat % size), roundRobin (next + 1))
  | listed picks => (picks.head?.join.filter (· < size), listed picks.tail)

/-- A position that is chosen is one of the list. -/
theorem lt_of_select {policy : Policy} {size draw position : Nat}
    (selected : (policy.select size draw).1 = some position) : position < size := by
  cases policy with
  | random =>
      by_cases none : size = 0
      · simp [select, none] at selected
      · simp only [select, none, if_false, Option.some.injEq] at selected
        exact selected ▸ Nat.mod_lt _ (Nat.pos_of_ne_zero none)
  | roundRobin next =>
      by_cases none : size = 0
      · simp [select, none] at selected
      · simp only [select, none, if_false, Option.some.injEq] at selected
        exact selected ▸ Nat.mod_lt _ (Nat.pos_of_ne_zero none)
  | listed picks =>
      simp only [select, Option.filter_eq_some_iff, decide_eq_true_eq] at selected
      exact selected.2

def text : Policy → String
  | random => "RandomSelection"
  | roundRobin next => s!"RoundRobin \x7b next: {next} \x7d"
  | listed _ => "ListedSelection"

end Policy

/-- The policies that a configuration can name. -/
inductive Selection where
  | random
  | roundRobin
deriving DecidableEq, Inhabited

namespace Selection

def name : Selection → String
  | random => "random"
  | roundRobin => "round_robin"

/-- Looks up a policy by its exact name. -/
def ofName (name : String) : Except ConfigurationFault Selection :=
  if name = "random" then .ok random
  else if name = "round_robin" then .ok roundRobin
  else .error (.unknownSelection name)

/-- A fresh policy; round robin starts at the first endpoint. -/
def policy : Selection → Policy
  | random => .random
  | roundRobin => .roundRobin 0

end Selection

end GraphClient
