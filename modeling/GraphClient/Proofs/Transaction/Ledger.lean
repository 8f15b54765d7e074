import GraphClient.Proofs.Transaction.Conduct

namespace GraphClient

/-- An empty error text states no error. -/
theorem MutationReply.statedError_eq_none_iff {reply : MutationReply} :
    reply.statedError = none ↔ reply.error.getD "" = "" := by
  cases stated : reply.error with
  | none => simp [statedError, stated]
  | some message => simp [statedError, stated, Option.filter]

/-- The watermark that a call carries; writes and calls outside transactions carry none. -/
def Call.watermark? : Call → Option Watermark
  | query request => some request.watermark
  | commitOrAbort context => some context.watermark
  | mutate _ | alter _ | checkVersion => none

namespace Exchange

/-- The context that a served read or write reports. The reply to a write that was not applied
states an error and reports nothing. -/
def report? : Exchange → Option WireContext
  | ⟨_, _, .query _, .ok reply⟩ => some reply.context
  | ⟨_, _, .mutate _, .ok reply⟩ =>
    if reply.error.getD "" = "" then some reply.context else none
  | _ => none

/-- The reply to a commit that the server has carried out. -/
def confirmation? : Exchange → Option WireContext
  | ⟨_, _, .commitOrAbort context, .ok reply⟩ =>
    if context.aborted = false ∧ reply.aborted = false then some reply else none
  | _ => none

variable {position : Nat} {endpoint : Endpoint}

theorem report?_mutate_of_applied {mutation : Mutation} {reply : MutationReply}
    (applied : reply.statedError = none) :
    report? ⟨position, endpoint, .mutate mutation, .ok reply⟩ = some reply.context :=
  if_pos (MutationReply.statedError_eq_none_iff.1 applied)

theorem report?_mutate_of_not_applied {mutation : Mutation} {reply : MutationReply}
    (stated : reply.statedError ≠ none) :
    report? ⟨position, endpoint, .mutate mutation, .ok reply⟩ = none :=
  if_neg fun unstated => stated (MutationReply.statedError_eq_none_iff.2 unstated)

theorem confirmation?_of_confirmed {context reply : WireContext}
    (confirmed : context.aborted = false ∧ reply.aborted = false) :
    confirmation? ⟨position, endpoint, .commitOrAbort context, .ok reply⟩ = some reply :=
  if_pos confirmed

theorem confirmation?_of_not_confirmed {context reply : WireContext}
    (unconfirmed : ¬ (context.aborted = false ∧ reply.aborted = false)) :
    confirmation? ⟨position, endpoint, .commitOrAbort context, .ok reply⟩ = none :=
  if_neg unconfirmed

end Exchange

namespace Ledger

/-- The start timestamp that replies assign: the first one that is not zero. -/
def assigned (replies : List WireContext) : UInt64 :=
  ((replies.map fun reply => reply.startTimestamp).find? (· ≠ 0)).getD 0

/-- A transaction takes over a report that is compatible with what it has been assigned. -/
def note (replies : List WireContext) (exchange : Exchange) : List WireContext :=
  replies ++ (exchange.report?.filter fun reply =>
    Compatible (assigned replies) reply.startTimestamp).toList

/-- The reports that a transaction has taken over from its exchanges. -/
def learnt (exchanges : List Exchange) : List WireContext :=
  exchanges.foldl note []

/-- The reply that a transaction accepts from an exchange after those of the past. -/
def accepted? (past : List Exchange) (exchange : Exchange) : Option WireContext :=
  (exchange.report?.or exchange.confirmation?).filter fun reply =>
    Compatible (assigned (learnt past)) reply.startTimestamp

/-- The replies that a transaction accepts from exchanges after those of the past. -/
def acceptedAfter (past : List Exchange) : List Exchange → List WireContext
  | [] => []
  | exchange :: rest =>
    (accepted? past exchange).toList ++ acceptedAfter (past ++ [exchange]) rest

/-- The watermarks of the replies taken together. -/
def reported (replies : List WireContext) : Watermark :=
  Watermark.join (replies.map fun reply => reply.watermark)

@[simp] theorem reported_nil : reported [] = ⊥ :=
  rfl

@[simp] theorem reported_singleton (reply : WireContext) : reported [reply] = reply.watermark := by
  rw [reported, List.map_singleton, Watermark.join_cons, Watermark.join_nil, sup_bot_eq]

@[simp] theorem reported_append (first second : List WireContext) :
    reported (first ++ second) = reported first ⊔ reported second := by
  rw [reported, List.map_append, Watermark.join_append]
  rfl

/-- What is reported is above the watermark of each reply. -/
theorem le_reported {reply : WireContext} {replies : List WireContext} (member : reply ∈ replies) :
    reply.watermark ≤ reported replies :=
  Watermark.le_join (List.mem_map.2 ⟨reply, member, rfl⟩)

@[simp] theorem assigned_nil : assigned [] = 0 :=
  rfl

/-- The first start timestamp that is assigned stays. -/
theorem assigned_append (first second : List WireContext) :
    assigned (first ++ second) = if assigned first = 0 then assigned second else assigned first := by
  induction first with
  | nil => rfl
  | cons reply rest inductionHypothesis =>
      simp only [assigned, List.cons_append, List.map_cons, List.find?_cons] at inductionHypothesis ⊢
      by_cases unassigned : reply.startTimestamp = 0
      · simpa [unassigned] using inductionHypothesis
      · simp [unassigned]

theorem assigned_singleton (reply : WireContext) : assigned [reply] = reply.startTimestamp := by
  by_cases unassigned : reply.startTimestamp = 0 <;> simp [assigned, unassigned]

theorem learnt_append_singleton (past : List Exchange) (exchange : Exchange) :
    learnt (past ++ [exchange]) = note (learnt past) exchange := by
  rw [learnt, List.foldl_append]
  rfl

/-- A report with a compatible start timestamp is learnt. -/
theorem learnt_of_report {past : List Exchange} {exchange : Exchange} {reply : WireContext}
    (reported : exchange.report? = some reply)
    (compatible : Compatible (assigned (learnt past)) reply.startTimestamp) :
    learnt (past ++ [exchange]) = learnt past ++ [reply] := by
  rw [learnt_append_singleton, note, reported]
  simp [compatible]

theorem learnt_of_report_eq_none {past : List Exchange} {exchange : Exchange}
    (unreported : exchange.report? = none) : learnt (past ++ [exchange]) = learnt past := by
  rw [learnt_append_singleton, note, unreported]
  simp

/-- Nothing is learnt from an exchange whose reply is not accepted. -/
theorem learnt_of_accepted?_eq_none {past : List Exchange} {exchange : Exchange}
    (rejected : accepted? past exchange = none) : learnt (past ++ [exchange]) = learnt past := by
  cases reported : exchange.report? with
  | none => exact learnt_of_report_eq_none reported
  | some reply =>
      rw [accepted?, reported, Option.some_or] at rejected
      rw [learnt_append_singleton, note, reported, rejected]
      simp

/-- A report is accepted if its start timestamp is compatible with the one assigned. -/
theorem accepted?_of_report {past : List Exchange} {exchange : Exchange} {reply : WireContext}
    (reported : exchange.report? = some reply) :
    accepted? past exchange =
      if Compatible (assigned (learnt past)) reply.startTimestamp then some reply else none := by
  rw [accepted?, reported, Option.some_or]
  simp [Option.filter]

/-- A confirmation is accepted if its start timestamp is compatible with the one assigned. -/
theorem accepted?_of_confirmation {past : List Exchange} {exchange : Exchange}
    {reply : WireContext} (unreported : exchange.report? = none)
    (confirmed : exchange.confirmation? = some reply) :
    accepted? past exchange =
      if Compatible (assigned (learnt past)) reply.startTimestamp then some reply else none := by
  rw [accepted?, unreported, confirmed, Option.none_or]
  simp [Option.filter]

theorem accepted?_of_silent {past : List Exchange} {exchange : Exchange}
    (unreported : exchange.report? = none) (unconfirmed : exchange.confirmation? = none) :
    accepted? past exchange = none := by
  rw [accepted?, unreported, unconfirmed]
  rfl

/-- A refused call has no reply to accept. -/
theorem accepted?_of_refused {past : List Exchange} {position : Nat} {endpoint : Endpoint}
    {call : Call} {error : CallError} :
    accepted? past ⟨position, endpoint, call, .error error⟩ = none := by
  apply accepted?_of_silent <;> cases call <;> rfl

/-- Whether a reply is accepted depends on what has been learnt, not on how. -/
theorem accepted?_congr {past others : List Exchange} (same : learnt past = learnt others)
    (exchange : Exchange) : accepted? past exchange = accepted? others exchange := by
  rw [accepted?, accepted?, same]

/-- Exchanges whose replies are not accepted teach nothing. -/
theorem learnt_append_of_rejected {past more : List Exchange}
    (rejected : ∀ exchange ∈ more, accepted? past exchange = none) :
    learnt (past ++ more) = learnt past := by
  induction more generalizing past with
  | nil => rw [List.append_nil]
  | cons exchange rest inductionHypothesis =>
      have same := learnt_of_accepted?_eq_none (rejected exchange List.mem_cons_self)
      rw [List.append_cons, inductionHypothesis, same]
      intro later member
      rw [accepted?_congr same]
      exact rejected later (List.mem_cons_of_mem _ member)

/-- What has been learnt is never forgotten. -/
theorem exists_learnt_append (past more : List Exchange) :
    ∃ replies, learnt (past ++ more) = learnt past ++ replies := by
  induction more generalizing past with
  | nil => exact ⟨[], by simp⟩
  | cons exchange rest inductionHypothesis =>
      obtain ⟨replies, later⟩ := inductionHypothesis (past ++ [exchange])
      rw [List.append_cons, later, learnt_append_singleton, note, List.append_assoc]
      exact ⟨_, rfl⟩

/-- A start timestamp that has been learnt stays assigned. -/
theorem assigned_learnt_append {past : List Exchange} (fixed : assigned (learnt past) ≠ 0)
    (more : List Exchange) : assigned (learnt (past ++ more)) = assigned (learnt past) := by
  obtain ⟨replies, later⟩ := exists_learnt_append past more
  rw [later, assigned_append, if_neg fixed]

/-- Exchanges that are all rejected add nothing to what is accepted. -/
theorem acceptedAfter_of_rejected {past more : List Exchange}
    (rejected : ∀ exchange ∈ more, accepted? past exchange = none) :
    acceptedAfter past more = [] := by
  induction more generalizing past with
  | nil => rfl
  | cons exchange rest inductionHypothesis =>
      have first := rejected exchange List.mem_cons_self
      rw [acceptedAfter, first, inductionHypothesis]
      · rfl
      · intro later member
        rw [accepted?_congr (learnt_of_accepted?_eq_none first)]
        exact rejected later (List.mem_cons_of_mem _ member)

theorem acceptedAfter_singleton (past : List Exchange) (exchange : Exchange) :
    acceptedAfter past [exchange] = (accepted? past exchange).toList := by
  rw [acceptedAfter, acceptedAfter, List.append_nil]

/-- Replies are accepted one part after the other. -/
theorem acceptedAfter_append (past first second : List Exchange) :
    acceptedAfter past (first ++ second) =
      acceptedAfter past first ++ acceptedAfter (past ++ first) second := by
  induction first generalizing past with
  | nil => simp [acceptedAfter]
  | cons exchange rest inductionHypothesis =>
      simp [acceptedAfter, inductionHypothesis, List.append_assoc]

end Ledger

end GraphClient
