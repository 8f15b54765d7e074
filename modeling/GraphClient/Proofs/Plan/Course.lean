import GraphClient.Client
import GraphClient.Proofs.Watermark.Lattice

namespace GraphClient

/-- What carrying out a plan shows of it. -/
inductive Event where
  /-- A call for which no endpoint was selected. -/
  | unsent (call : Call)
  | exchanged (exchange : Exchange)
  | folded (update : Watermark)

namespace Event

def exchange? : Event → Option Exchange
  | exchanged exchange => some exchange
  | unsent _ | folded _ => none

def fold? : Event → Option Watermark
  | folded update => some update
  | unsent _ | exchanged _ => none

/-- The call that the event shows, whether or not it was sent. -/
def call? : Event → Option Call
  | unsent call => some call
  | exchanged exchange => some exchange.call
  | folded _ => none

/-- The calls among the events that were sent, with their answers. -/
def exchanges (events : List Event) : List Exchange :=
  events.filterMap exchange?

/-- The watermarks that the events fold. -/
def folds (events : List Event) : List Watermark :=
  events.filterMap fold?

@[simp] theorem exchanges_nil : exchanges [] = [] :=
  rfl

@[simp] theorem exchanges_unsent (call : Call) (rest : List Event) :
    exchanges (unsent call :: rest) = exchanges rest :=
  rfl

@[simp] theorem exchanges_exchanged (exchange : Exchange) (rest : List Event) :
    exchanges (exchanged exchange :: rest) = exchange :: exchanges rest :=
  rfl

@[simp] theorem exchanges_folded (update : Watermark) (rest : List Event) :
    exchanges (folded update :: rest) = exchanges rest :=
  rfl

@[simp] theorem exchanges_append (first second : List Event) :
    exchanges (first ++ second) = exchanges first ++ exchanges second :=
  List.filterMap_append

/-- What is folded after a call is not an exchange. -/
theorem exchanges_pair_folded (event : Event) (update : Watermark) :
    exchanges [event, folded update] = exchanges [event] := by
  cases event <;> rfl

@[simp] theorem folds_nil : folds [] = [] :=
  rfl

@[simp] theorem folds_unsent (call : Call) (rest : List Event) :
    folds (unsent call :: rest) = folds rest :=
  rfl

@[simp] theorem folds_exchanged (exchange : Exchange) (rest : List Event) :
    folds (exchanged exchange :: rest) = folds rest :=
  rfl

@[simp] theorem folds_folded (update : Watermark) (rest : List Event) :
    folds (folded update :: rest) = update :: folds rest :=
  rfl

@[simp] theorem folds_append (first second : List Event) :
    folds (first ++ second) = folds first ++ folds second :=
  List.filterMap_append

end Event

/-- The event in which a call gets an answer, from an endpoint or for want of one. -/
inductive Call.Gets (call : Call) : Except CallFailure call.Reply → Event → Prop where
  | unsent : call.Gets (.error .noEndpoint) (.unsent call)
  | exchanged (position : Nat) (endpoint : Endpoint) (answer : Except CallError call.Reply) :
      call.Gets (answer.mapError .refused) (.exchanged ⟨position, endpoint, call, answer⟩)

namespace Call.Gets

variable {call : Call} {event : Event}

/-- A reply comes from an endpoint. -/
theorem of_ok {reply : call.Reply} (got : call.Gets (.ok reply) event) :
    ∃ position endpoint, event = .exchanged ⟨position, endpoint, call, .ok reply⟩ := by
  generalize same : (Except.ok reply : Except CallFailure call.Reply) = answer at got
  cases got with
  | unsent => cases same
  | exchanged position endpoint sent =>
      cases sent with
      | error error => cases same
      | ok given =>
          cases same
          exact ⟨position, endpoint, rfl⟩

/-- A call that failed was not sent, or its node refused it. -/
theorem of_error {failure : CallFailure} (got : call.Gets (.error failure) event) :
    (failure = .noEndpoint ∧ event = .unsent call) ∨
      ∃ position endpoint error, failure = .refused error ∧
        event = .exchanged ⟨position, endpoint, call, .error error⟩ := by
  generalize same : (Except.error failure : Except CallFailure call.Reply) = answer at got
  cases got with
  | unsent =>
      cases same
      exact .inl ⟨rfl, rfl⟩
  | exchanged position endpoint sent =>
      cases sent with
      | ok given => cases same
      | error error =>
          cases same
          exact .inr ⟨position, endpoint, error, rfl, rfl⟩

/-- A call that gets its answer folds nothing. -/
theorem folds_eq_nil {answer : Except CallFailure call.Reply} (got : call.Gets answer event) :
    Event.folds [event] = [] := by
  cases got <;> rfl

theorem call?_eq {answer : Except CallFailure call.Reply} (got : call.Gets answer event) :
    event.call? = some call := by
  cases got <;> rfl

/-- A call that gets an answer is the only one that its event can show. -/
theorem call_eq {answer : Except CallFailure call.Reply} (got : call.Gets answer event)
    {exchange : Exchange} (member : exchange ∈ Event.exchanges [event]) : exchange.call = call := by
  cases got with
  | unsent => cases member
  | exchanged position endpoint given =>
      cases List.mem_singleton.1 member
      rfl

/-- A call among those of an event and further ones is the first of them or a later one. -/
theorem exchanges_split {answer : Except CallFailure call.Reply} (got : call.Gets answer event)
    {events : List Event} {before after : List Exchange} {exchange : Exchange}
    (split : Event.exchanges (event :: events) = before ++ exchange :: after) :
    (before = [] ∧ exchange.call = call ∧ after = Event.exchanges events) ∨
      ∃ rest, before = Event.exchanges [event] ++ rest ∧
        Event.exchanges events = rest ++ exchange :: after := by
  cases got with
  | unsent => exact .inr ⟨before, rfl, split⟩
  | exchanged position endpoint given =>
      cases before with
      | nil =>
          rw [Event.exchanges_exchanged, List.nil_append, List.cons.injEq] at split
          obtain ⟨rfl, same⟩ := split
          exact .inl ⟨rfl, rfl, same.symm⟩
      | cons first rest =>
          rw [Event.exchanges_exchanged, List.cons_append, List.cons.injEq] at split
          obtain ⟨rfl, onward⟩ := split
          exact .inr ⟨rest, rfl, onward⟩

end Call.Gets

namespace Plan

/-- What is left of a plan after some events. -/
inductive Leads {Result : Type} : Plan Result → List Event → Plan Result → Prop where
  | stay (plan : Plan Result) : Leads plan [] plan
  | call {message : Call} {resume : Except CallFailure message.Reply → Plan Result}
      {answer : Except CallFailure message.Reply} {event : Event} {events : List Event}
      {rest : Plan Result} (got : message.Gets answer event)
      (onward : Leads (resume answer) events rest) :
      Leads (.call message resume) (event :: events) rest
  | fold {update : Watermark} {next rest : Plan Result} {events : List Event}
      (onward : Leads next events rest) : Leads (.fold update next) (.folded update :: events) rest

/-- The plan comes to its end through these events. -/
def Yields {Result : Type} (plan : Plan Result) (events : List Event) (result : Result) : Prop :=
  plan.Leads events (.done result)

variable {Result : Type}

/-- A course that goes on from where another one led makes one course with it. -/
theorem Leads.append {first second third : Plan Result} {before after : List Event}
    (leads : first.Leads before second) (onward : second.Leads after third) :
    first.Leads (before ++ after) third := by
  induction leads with
  | stay plan => exact onward
  | call got _ inductionHypothesis => exact .call got (inductionHypothesis onward)
  | fold _ inductionHypothesis => exact .fold (inductionHypothesis onward)

/-- Every plan can come to its end. -/
theorem exists_yields (plan : Plan Result) : ∃ events result, plan.Yields events result := by
  induction plan with
  | done result => exact ⟨[], result, .stay _⟩
  | call message resume inductionHypothesis =>
      obtain ⟨events, result, yields⟩ := inductionHypothesis (.error .noEndpoint)
      exact ⟨.unsent message :: events, result, .call .unsent yields⟩
  | fold update rest inductionHypothesis =>
      obtain ⟨events, result, yields⟩ := inductionHypothesis
      exact ⟨.folded update :: events, result, .fold yields⟩

theorem yields_done {result final : Result} {events : List Event} :
    (done result).Yields events final ↔ events = [] ∧ final = result := by
  constructor
  · intro yields
    cases yields
    exact ⟨rfl, rfl⟩
  · rintro ⟨rfl, rfl⟩
    exact .stay _

/-- A plan that folds does so first, and then yields what its rest yields. -/
theorem yields_fold {update : Watermark} {next : Plan Result} {final : Result}
    {events : List Event} :
    (fold update next).Yields events final ↔
      ∃ rest, events = .folded update :: rest ∧ next.Yields rest final := by
  constructor
  · intro yields
    cases yields with
    | fold onward => exact ⟨_, rfl, onward⟩
  · rintro ⟨rest, rfl, onward⟩
    exact .fold onward

/-- A plan that calls goes on with some answer to its call, and yields what that leads to. -/
theorem yields_call {message : Call} {resume : Except CallFailure message.Reply → Plan Result}
    {final : Result} {events : List Event} :
    (call message resume).Yields events final ↔
      ∃ answer event rest, events = event :: rest ∧ message.Gets answer event ∧
        (resume answer).Yields rest final := by
  constructor
  · intro yields
    cases yields with
    | call got onward => exact ⟨_, _, _, rfl, got, onward⟩
  · rintro ⟨answer, event, rest, rfl, got, onward⟩
    exact .call got onward

/-- A course of two plans in sequence is a course of the first and then one of the second. -/
theorem yields_bind {Other : Type} {plan : Plan Other} {next : Other → Plan Result}
    {events : List Event} {final : Result} :
    (plan.bind next).Yields events final ↔
      ∃ before after middle, events = before ++ after ∧ plan.Yields before middle ∧
        (next middle).Yields after final := by
  constructor
  · intro yields
    induction plan generalizing events with
    | done result => exact ⟨[], events, result, rfl, .stay _, yields⟩
    | call message resume inductionHypothesis =>
        obtain ⟨answer, event, rest, rfl, got, onward⟩ := yields_call.1 yields
        obtain ⟨before, after, middle, rfl, first, second⟩ := inductionHypothesis answer onward
        exact ⟨event :: before, after, middle, rfl, .call got first, second⟩
    | fold update rest inductionHypothesis =>
        obtain ⟨later, rfl, onward⟩ := yields_fold.1 yields
        obtain ⟨before, after, middle, rfl, first, second⟩ := inductionHypothesis onward
        exact ⟨.folded update :: before, after, middle, rfl, .fold first, second⟩
  · rintro ⟨before, after, middle, rfl, first, second⟩
    induction plan generalizing before with
    | done result =>
        obtain ⟨rfl, rfl⟩ := yields_done.1 first
        exact second
    | call message resume inductionHypothesis =>
        obtain ⟨answer, event, rest, rfl, got, onward⟩ := yields_call.1 first
        exact .call got (inductionHypothesis answer rest onward)
    | fold update rest inductionHypothesis =>
        obtain ⟨later, rfl, onward⟩ := yields_fold.1 first
        exact .fold (inductionHypothesis later onward)

end Plan

namespace Surroundings

/-- What a list of events has made of the surroundings. -/
structure After (before : Surroundings) (events : List Event) (after : Surroundings) : Prop where
  exchanges : after.traffic.exchanges = before.traffic.exchanges ++ Event.exchanges events
  folds : after.folds = before.folds ++ Event.folds events
  shared : after.client.watermark = before.client.watermark ⊔ Watermark.join (Event.folds events)

theorem after_nil (surroundings : Surroundings) : surroundings.After [] surroundings where
  exchanges := (List.append_nil _).symm
  folds := (List.append_nil _).symm
  shared := (sup_bot_eq _).symm

/-- Events that fold nothing leave the shared watermark as it is. -/
theorem After.unchanged {before after : Surroundings} {events : List Event}
    (shown : before.After events after) (unfolded : Event.folds events = []) :
    after.client.watermark = before.client.watermark := by
  have shared := shown.shared
  rw [unfolded, Watermark.join_nil, sup_bot_eq] at shared
  exact shared

/-- What two courses make of the surroundings, their concatenation makes of them. -/
theorem after_append {first second third : Surroundings} {before after : List Event}
    (early : first.After before second) (late : second.After after third) :
    first.After (before ++ after) third where
  exchanges := by
    rw [late.exchanges, early.exchanges, Event.exchanges_append, List.append_assoc]
  folds := by rw [late.folds, early.folds, Event.folds_append, List.append_assoc]
  shared := by
    rw [late.shared, early.shared, Event.folds_append, Watermark.join_append, sup_assoc]

/-- A call gets its answer, and nothing is folded. -/
theorem exchange_gets (surroundings : Surroundings) (message : Call) :
    ∃ event, message.Gets (surroundings.exchange message).1 event ∧
      surroundings.After [event] (surroundings.exchange message).2 := by
  obtain ⟨client, traffic, folds⟩ := surroundings
  simp only [exchange, Pool.exchange]
  split
  · exact ⟨.unsent message, .unsent, ⟨(List.append_nil _).symm, (List.append_nil _).symm,
      (sup_bot_eq _).symm⟩⟩
  · exact ⟨.exchanged _, .exchanged _ _ _, ⟨rfl, (List.append_nil _).symm, (sup_bot_eq _).symm⟩⟩

theorem fold_after (surroundings : Surroundings) (update : Watermark) :
    surroundings.After [.folded update] (surroundings.fold update) where
  exchanges := (List.append_nil _).symm
  folds := rfl
  shared := by
    change (surroundings.client.shared.foldIn update).read = _
    rw [SharedWatermark.read_foldIn, Watermark.merge_eq_sup]
    simp [Client.watermark]

end Surroundings

/-- Running a plan takes one of its courses, and the surroundings show it. -/
theorem Plan.run_yields {Result : Type} (plan : Plan Result) (surroundings : Surroundings) :
    ∃ events, plan.Yields events (plan.run surroundings).1 ∧
      surroundings.After events (plan.run surroundings).2 := by
  induction plan generalizing surroundings with
  | done result =>
      exact ⟨[], .stay _, surroundings.after_nil⟩
  | call message resume inductionHypothesis =>
      obtain ⟨event, got, early⟩ := surroundings.exchange_gets message
      obtain ⟨events, yields, late⟩ := inductionHypothesis (surroundings.exchange message).1
        (surroundings.exchange message).2
      exact ⟨event :: events, .call got yields, Surroundings.after_append early late⟩
  | fold update rest inductionHypothesis =>
      obtain ⟨events, yields, late⟩ := inductionHypothesis (surroundings.fold update)
      exact ⟨.folded update :: events, .fold yields,
        Surroundings.after_append (surroundings.fold_after update) late⟩

end GraphClient
