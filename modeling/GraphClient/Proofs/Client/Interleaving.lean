/-
Transactions of one client do not influence each other. Whatever turns they take, each obtains the
outcomes, sends the calls and comes to the end that it would by itself. The reason is that no turn
changes what will have come of anybody in the end.
-/

import GraphClient.Proofs.Client.Company
import GraphClient.Proofs.Client.Stepping

namespace GraphClient

open Ledger

/-- What is reported is the least watermark above all replies. -/
theorem Ledger.reported_le_iff {replies : List WireContext} {bound : Watermark} :
    reported replies ≤ bound ↔ ∀ reply ∈ replies, reply.watermark ≤ bound := by
  rw [reported, Watermark.join_le_iff, List.forall_mem_map]

/-- What will have come of a transaction when it is through with its script. -/
structure Prospect where
  outcomes : List Outcome
  calls : List Call
  last : Transaction

namespace Company

/-- What one transaction has obtained and sent, together with what is left for it to do. -/
def prospect? (company : Company) (name : String) : Option Prospect :=
  (company.left? name).map fun left =>
    { outcomes := company.outcomesOf name ++ left.result.1
      calls := company.callsOf name ++ left.calls
      last := left.result.2 }

/-- What one transaction will still fold. -/
def foldsLeft (company : Company) (name : String) : List Watermark :=
  (company.left? name).elim [] fun left => left.folds

/-- The shared watermark together with all that will still be folded into it. -/
def outlook (company : Company) : Watermark :=
  company.state.session.client.watermark ⊔
    Watermark.join (company.scripts.keys.flatMap company.foldsLeft)

/-- The outlook is the least watermark above the shared one and all folds that are left. -/
theorem outlook_le_iff {company : Company} {bound : Watermark} :
    company.outlook ≤ bound ↔ company.state.session.client.watermark ≤ bound ∧
      ∀ name, (company.scripts.get? name).isSome →
        Watermark.join (company.foldsLeft name) ≤ bound := by
  simp only [outlook, sup_le_iff, Watermark.join_le_iff, List.mem_flatMap, SortedMap.mem_keys_iff]
  refine and_congr_right fun _ => ⟨?_, ?_⟩
  · exact fun bounded name known update member => bounded update ⟨name, known, member⟩
  · rintro bounded update ⟨name, known, member⟩
    exact bounded name known update member

section Conservation

variable {before after : Company} {name : String} {outcomes : List Outcome} {calls : List Call}
  {folds : List Watermark}

/-- A turn changes nothing in what will have come of any transaction. -/
theorem Proceeds.prospect (proceeds : before.Proceeds after name outcomes calls folds)
    (other : String) : after.prospect? other = before.prospect? other := by
  rw [prospect?, prospect?, proceeds.obtained, proceeds.sent]
  by_cases own : other = name
  · rw [own, proceeds.own, if_pos rfl, if_pos rfl, Option.map_map]
    congr 1
    funext left
    simp [Performance.told, Performance.preceded]
  · rw [proceeds.others other own, if_neg own, if_neg own, List.append_nil, List.append_nil]

/-- What a turn folds is no longer left to be folded. -/
theorem Proceeds.outlook (proceeds : before.Proceeds after name outcomes calls folds)
    (known : (before.scripts.get? name).isSome) (present : (before.left? name).isSome) :
    after.outlook = before.outlook := by
  have own : before.foldsLeft name = folds ++ after.foldsLeft name := by
    rw [proceeds.own, Option.isSome_map] at present
    obtain ⟨left, found⟩ := Option.isSome_iff_exists.1 present
    rw [foldsLeft, foldsLeft, proceeds.own, found]
    rfl
  have others (other : String) (apart : other ≠ name) :
      after.foldsLeft other = before.foldsLeft other := by
    rw [foldsLeft, foldsLeft, proceeds.others other apart]
  apply eq_of_forall_ge_iff
  intro bound
  rw [outlook_le_iff, outlook_le_iff, proceeds.shared, sup_le_iff]
  constructor
  · rintro ⟨⟨shared, folded⟩, left⟩
    refine ⟨shared, fun other scripted => ?_⟩
    have bounded := left other ((proceeds.scripted other).trans scripted)
    by_cases same : other = name
    · subst same
      rw [own, Watermark.join_append]
      exact sup_le folded bounded
    · rw [← others other same]
      exact bounded
  · rintro ⟨shared, left⟩
    have bounded := left name known
    rw [own, Watermark.join_append, sup_le_iff] at bounded
    refine ⟨⟨shared, bounded.1⟩, fun other scripted => ?_⟩
    by_cases same : other = name
    · rw [same]
      exact bounded.2
    · rw [others other same]
      exact left other ((proceeds.scripted other).symm.trans scripted)

/-- A turn leaves the company ready for the next one. -/
theorem Proceeds.ready (proceeds : before.Proceeds after name outcomes calls folds)
    (ready : before.Ready) : after.Ready where
  serves := proceeds.serves
  present other scripted := by
    have present := ready.present other ((proceeds.scripted other).symm.trans scripted)
    by_cases own : other = name
    · rw [own, proceeds.own, Option.isSome_map] at present
      rw [own]
      exact present
    · rw [proceeds.others other own]
      exact present

end Conservation

variable {company : Company} {name : String}

/-- What remains the same in any interleaving, and what goes down with each turn. -/
structure Keeps (before after : Company) (interleaving : List (String × Nat)) : Prop where
  ready : after.Ready
  scripted : ∀ name, (after.scripts.get? name).isSome = (before.scripts.get? name).isSome
  prospect : ∀ name, after.prospect? name = before.prospect? name
  outlook : after.outlook = before.outlook
  due : ∀ name, (before.scripts.get? name).isSome →
    after.due name = before.due name - interleaving.countP fun entry => entry.1 = name

/-- One turn changes no prospect, and takes one from what is due. -/
theorem turn_keeps (ready : company.Ready) (entry : String × Nat) :
    company.Keeps (company.turn entry.1 entry.2) [entry] := by
  cases found : company.scripts.get? entry.1 with
  | none =>
      have still : company.turn entry.1 entry.2 = company := by rw [turn, found]
      rw [still]
      refine ⟨ready, fun _ => rfl, fun _ => rfl, rfl, fun name known => ?_⟩
      have apart : entry.1 ≠ name := by
        rintro rfl
        rw [found] at known
        cases known
      simp [apart]
  | some script =>
      have known : (company.scripts.get? entry.1).isSome := by rw [found]; rfl
      obtain ⟨outcomes, calls, folds, proceeds⟩ := turn_proceeds ready known entry.2
      refine ⟨proceeds.ready ready, proceeds.scripted, proceeds.prospect,
        proceeds.outlook known (ready.present _ known), fun name _ => ?_⟩
      rw [proceeds.due]
      simp [List.countP_singleton, eq_comm]

/-- An interleaving changes no prospect, and takes from what is due as many as the turns of each. -/
theorem run_keeps (ready : company.Ready) (interleaving : List (String × Nat)) :
    company.Keeps (company.run interleaving) interleaving := by
  induction interleaving generalizing company with
  | nil => exact ⟨ready, fun _ => rfl, fun _ => rfl, rfl, fun _ _ => rfl⟩
  | cons entry rest inductionHypothesis =>
      have first := turn_keeps ready entry
      have onward := inductionHypothesis first.ready
      change company.Keeps ((company.turn entry.1 entry.2).run rest) _
      constructor
      · exact onward.ready
      · exact fun name => (onward.scripted name).trans (first.scripted name)
      · exact fun name => (onward.prospect name).trans (first.prospect name)
      · exact onward.outlook.trans first.outlook
      · intro name known
        rw [onward.due name ((first.scripted name).trans known), first.due name known,
          Nat.sub_sub, ← List.countP_append]
        rfl

section Ends

/-- A transaction that is through with its script has nothing left. -/
theorem left?_of_isDone (done : company.isDone name = true) :
    company.left? name = (company.state.session.transaction? name).map fun transaction =>
      { result := ([], transaction), unused := (company.script name).deliveries } := by
  rw [isDone, Bool.and_eq_true, List.isEmpty_iff, Bool.not_eq_true', Concurrent.isBusy,
    Option.isSome_eq_false_iff, Option.isNone_iff_eq_none] at done
  rw [left?, done.1, done.2]
  rfl

/-- Nothing is due exactly if the transaction is through with its script. -/
theorem due_eq_zero_iff : company.due name = 0 ↔ company.isDone name = true := by
  constructor
  · intro nothing
    rw [due, Nat.add_eq_zero_iff, Nat.add_eq_zero_iff, List.length_eq_zero_iff,
      Bool.toNat_eq_zero] at nothing
    rw [isDone, nothing.1.1, nothing.2]
    rfl
  · intro done
    have left := left?_of_isDone done
    rw [isDone, Bool.and_eq_true, List.isEmpty_iff, Bool.not_eq_true'] at done
    rw [due, left, done.1, done.2]
    cases company.state.session.transaction? name <;> rfl

/-- The prospect of a transaction that is through with its script is what it has obtained, sent and
become. -/
theorem prospect?_of_isDone (done : company.isDone name = true) :
    company.prospect? name = (company.state.session.transaction? name).map fun transaction =>
      ⟨company.outcomesOf name, company.callsOf name, transaction⟩ := by
  rw [prospect?, left?_of_isDone done, Option.map_map]
  congr 1
  funext transaction
  simp

/-- When all are through, nothing more is folded. -/
theorem outlook_of_done (done : ∀ name ∈ company.scripts.keys, company.isDone name = true) :
    company.outlook = company.state.session.client.watermark := by
  have nothing : company.scripts.keys.flatMap company.foldsLeft = [] := by
    rw [List.flatMap_eq_nil_iff]
    intro name member
    rw [foldsLeft, left?_of_isDone (done name member)]
    cases company.state.session.transaction? name <;> rfl
  rw [outlook, nothing, Watermark.join_nil, sup_bot_eq]

end Ends

/-- The transactions of the scripts have been begun and none of them waits, and both the client and the
one to compare with have a pool that serves, with the same deadline. -/
structure Begun (company : Company) (solo : Client) : Prop where
  serves : company.state.session.client.pool.Serves
  alike : solo.pool.Serves ∧ solo.pool.deadline = company.state.session.client.pool.deadline
  held : ∀ name ∈ company.scripts.keys, (company.state.session.transaction? name).isSome
  free : ∀ name ∈ company.scripts.keys, company.state.isBusy name = false

section Begun

variable {solo : Client}

/-- What is left at the start is what the transaction does alone. -/
theorem Begun.left? (begun : company.Begun solo) (member : name ∈ company.scripts.keys) :
    ∃ left, company.left? name = some left ∧
      (company.alone solo name).1 = left.result ∧
      (company.alone solo name).2.traffic.exchanges.map (fun exchange => exchange.call) =
        left.calls ∧
      (company.alone solo name).2.folds = left.folds := by
  obtain ⟨transaction, held⟩ := Option.isSome_iff_exists.1 (begun.held name member)
  have free : company.state.flight? name = none := by
    simpa [Concurrent.isBusy] using begun.free name member
  obtain ⟨result, calls, folds⟩ :=
    (transaction.performAll (company.script name).operations).run_replay
      { client := solo, traffic := { inbox := (company.script name).deliveries } } begun.alike.1
  rw [Company.left?, free, held, alone, held, ← begun.alike.2]
  exact ⟨_, rfl, result, calls, folds⟩

/-- A company at its start is ready. -/
theorem Begun.ready (begun : company.Begun solo) : company.Ready where
  serves := begun.serves
  present name known := by
    obtain ⟨left, found, -⟩ := begun.left? (SortedMap.mem_keys_iff.2 known)
    rw [found]
    rfl

/-- Due at the start are one turn for each operation and one for each answer. -/
theorem Begun.due (begun : company.Begun solo) (member : name ∈ company.scripts.keys) :
    company.due name = (company.script name).operations.length +
      (company.alone solo name).2.traffic.exchanges.length := by
  obtain ⟨left, found, -, calls, -⟩ := begun.left? member
  rw [Company.due, found, begun.free name member, Option.elim_some, ← calls, List.length_map]
  rfl

/-- The prospect at the start is what the transaction comes to alone. -/
theorem Begun.prospect (begun : company.Begun solo) (member : name ∈ company.scripts.keys) :
    company.prospect? name =
      some ⟨company.outcomesOf name ++ (company.alone solo name).1.1,
        company.callsOf name ++
          (company.alone solo name).2.traffic.exchanges.map (fun exchange => exchange.call),
        (company.alone solo name).1.2⟩ := by
  obtain ⟨left, found, result, calls, -⟩ := begun.left? member
  rw [prospect?, found, result, calls]
  rfl

/-- What a transaction folds alone raises the shared watermark by what it accepts. -/
theorem Begun.tally (begun : company.Begun solo) (consistent : company.state.Consistent)
    (member : name ∈ company.scripts.keys) :
    company.state.session.client.watermark ⊔ Watermark.join (company.foldsLeft name) =
      company.state.session.client.watermark ⊔
        reported (acceptedAfter (company.state.book.account name).exchanges
          (company.alone solo name).2.traffic.exchanges) := by
  obtain ⟨transaction, held⟩ := Option.isSome_iff_exists.1 (begun.held name member)
  have free : company.state.flight? name = none := by
    simpa [Concurrent.isBusy] using begun.free name member
  obtain ⟨left, found, -, -, folds⟩ := begun.left? member
  have tracks := (consistent.accounts name).idle transaction held free
  have below : transaction.context.watermark ≤ company.state.session.client.watermark := by
    rw [consistent.shared]
    exact tracks.below
  rw [foldsLeft, found, Option.elim_some, ← folds, alone, held]
  obtain ⟨events, yields, shown⟩ :=
    (transaction.performAll (company.script name).operations).run_yields
      { client := solo, traffic := { inbox := (company.script name).deliveries } }
  have tallied := Transaction.performAll_tally yields tracks.reflects below
  rw [← List.nil_append (Event.folds events), ← List.nil_append (Event.exchanges events)] at tallied
  rw [← shown.folds, ← shown.exchanges] at tallied
  exact tallied

/-- All that will be folded raises the shared watermark by what all accept. -/
theorem Begun.outlook (begun : company.Begun solo) (consistent : company.state.Consistent) :
    company.outlook = company.state.session.client.watermark ⊔
      reported (company.scripts.keys.flatMap fun name =>
        acceptedAfter (company.state.book.account name).exchanges
          (company.alone solo name).2.traffic.exchanges) := by
  have same (name : String) (member : name ∈ company.scripts.keys) {bound : Watermark}
      (shared : company.state.session.client.watermark ≤ bound) :
      Watermark.join (company.foldsLeft name) ≤ bound ↔
        reported (acceptedAfter (company.state.book.account name).exchanges
          (company.alone solo name).2.traffic.exchanges) ≤ bound := by
    rw [← and_iff_right (b := Watermark.join _ ≤ bound) shared, ← sup_le_iff,
      begun.tally consistent member, sup_le_iff, and_iff_right shared]
  apply eq_of_forall_ge_iff
  intro bound
  rw [outlook_le_iff, sup_le_iff, reported_le_iff]
  refine and_congr_right fun shared => ⟨?_, ?_⟩
  · intro bounded reply among
    obtain ⟨name, member, accepted⟩ := List.mem_flatMap.1 among
    have below := (same name member shared).1 (bounded name (SortedMap.mem_keys_iff.1 member))
    exact reported_le_iff.1 below reply accepted
  · intro bounded name known
    have member := SortedMap.mem_keys_iff.2 known
    refine (same name member shared).2 (reported_le_iff.2 fun reply accepted => ?_)
    exact bounded reply (List.mem_flatMap.2 ⟨name, member, accepted⟩)

end Begun

/-- Transactions that have been begun on a client whose pool serves do not influence each other. Each
is through with its script as soon as it has had a turn for every operation and for every call. Then it
has obtained the outcomes, sent the calls and come to the end that it would alone on any client with the
same deadline, whatever turns the others have taken in between. When all are through, the shared
watermark is what it was at the start with those of all replies that they accept alone. -/
theorem run_independent (flavour : Flavour) (pool : Pool) (timeout : Duration) (moves : List Move)
    (scripts : SortedMap String Script) (solo : Client)
    (begun : Begun { state := (Concurrent.ofPool flavour pool timeout).run moves, scripts } solo)
    (interleaving : List (String × Nat)) :
    let company : Company :=
      { state := (Concurrent.ofPool flavour pool timeout).run moves, scripts }
    let final := company.run interleaving
    (∀ name ∈ scripts.keys,
      let ((outcomes, last), surroundings) := company.alone solo name
      (final.isDone name = true ↔
        (company.script name).operations.length + surroundings.traffic.exchanges.length ≤
          interleaving.countP fun entry => entry.1 = name) ∧
      (final.isDone name = true →
        final.outcomesOf name = outcomes ∧
        final.callsOf name = company.callsOf name ++
          surroundings.traffic.exchanges.map (fun exchange => exchange.call) ∧
        final.state.session.transaction? name = some last)) ∧
    ((∀ name ∈ scripts.keys, final.isDone name = true) →
      final.state.session.client.watermark = company.state.session.client.watermark ⊔
        reported (scripts.keys.flatMap fun name =>
          acceptedAfter (company.state.book.account name).exchanges
            (company.alone solo name).2.traffic.exchanges)) := by
  intro company final
  have keeps := run_keeps begun.ready interleaving
  have consistent := Concurrent.consistent_run flavour pool timeout moves
  constructor
  · intro name member
    constructor
    · rw [← due_eq_zero_iff, keeps.due name (SortedMap.mem_keys_iff.1 member), begun.due member,
        Nat.sub_eq_zero_iff_le]
      exact Iff.rfl
    · intro done
      have prospect := (keeps.prospect name).trans (begun.prospect member)
      rw [prospect?_of_isDone done] at prospect
      obtain ⟨last, held, same⟩ := Option.map_eq_some_iff.1 prospect
      rw [Prospect.mk.injEq] at same
      obtain ⟨outcomes, calls, rfl⟩ := same
      exact ⟨outcomes, calls, held⟩
  · intro done
    have through : ∀ name ∈ final.scripts.keys, final.isDone name = true := by
      intro name member
      apply done
      rw [SortedMap.mem_keys_iff, ← keeps.scripted]
      exact SortedMap.mem_keys_iff.1 member
    rw [← outlook_of_done through, keeps.outlook]
    exact begun.outlook consistent

/-- A reader whose answer comes while a writer waits for its own: both obtain what they would alone. -/
theorem run_independent_of_reader_and_writer :
    let reporting (version : Version) : Delivery :=
      { answer := fun
          | .query _ => .ok { context := { watermark := .ofList [(1, version)] } }
          | .mutate _ => .ok { context := { watermark := .ofList [(1, version)] } }
          | call => .ok call.emptyReply }
    let pool : Pool := { endpoints := [{}, {}], policy := .roundRobin 0 }
    let state := (Concurrent.ofPool .asynchronous pool .zero).run
      [.step (.begin "reader" .readOnly none false) rfl [],
        .step (.begin "writer" .readWrite none false) rfl []]
    let scripts : SortedMap String Script := .ofList
      [("reader", { operations := [.query "" .empty], deliveries := [reporting 3] }),
        ("writer", { operations := [.mutate {}, .discard], deliveries := [reporting 4] })]
    let company : Company := { state, scripts }
    let final := company.run
      [("writer", 0), ("reader", 0), ("writer", 0), ("writer", 0), ("reader", 0), ("writer", 0)]
    (∀ name ∈ scripts.keys,
      final.outcomesOf name = (company.alone (.ofPool pool) name).1.1) ∧
      final.state.session.client.watermark = .ofList [(1, 4)] := by
  intro reporting pool state scripts company final
  have begun : company.Begun (.ofPool pool) :=
    ⟨⟨by decide, by decide⟩, ⟨⟨by decide, rfl⟩, by decide⟩, by decide, by decide⟩
  obtain ⟨each, total⟩ := run_independent .asynchronous pool .zero _ scripts (.ofPool pool) begun
    [("writer", 0), ("reader", 0), ("writer", 0), ("writer", 0), ("reader", 0), ("writer", 0)]
  have turns : ∀ name ∈ scripts.keys, (company.script name).operations.length +
      (company.alone (.ofPool pool) name).2.traffic.exchanges.length ≤
        [("writer", 0), ("reader", 0), ("writer", 0), ("writer", 0), ("reader", 0),
          ("writer", 0)].countP fun entry => entry.1 = name := by decide
  have done (name : String) (member : name ∈ scripts.keys) : final.isDone name = true :=
    (each name member).1.2 (turns name member)
  refine ⟨fun name member => ((each name member).2 (done name member)).1, ?_⟩
  rw [total done]
  decide

end Company

end GraphClient
