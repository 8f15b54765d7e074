import GraphClient.Proofs.Client.Stepping

namespace GraphClient

open Ledger

/-- What replies report of a group is the highest version among them. -/
theorem Ledger.get?_reported (replies : List WireContext) (group : GroupId) :
    (reported replies).get? group =
      Watermark.highest (replies.map fun reply => reply.watermark) group :=
  Watermark.get?_join _ group

/-- What a transaction has reason to know grows with its exchanges. -/
theorem Account.known_le_extend (account : Account) (exchanges : List Exchange) :
    reported account.known ≤ reported (account.extend exchanges).known := by
  obtain ⟨replies, more⟩ := exists_learnt_append account.exchanges exchanges
  rw [known, known, extend, more, ← List.append_assoc, reported_append (account.seen ++ _)]
  exact le_sup_left

namespace Concurrent

variable {flavour : Flavour} {pool : Pool} {timeout : Duration} {moves : List Move}

/-- The shared watermark holds of each group the highest version among the replies that have been
accepted so far: none of them is lost, and nothing else is in it. -/
theorem watermark_eq_highest_accepted (flavour : Flavour) (pool : Pool) (timeout : Duration)
    (moves : List Move) (group : GroupId) :
    let state := (ofPool flavour pool timeout).run moves
    state.session.client.watermark.get? group =
      Watermark.highest (state.book.accepted.map fun reply => reply.watermark) group := by
  intro state
  rw [(consistent_run flavour pool timeout moves).shared]
  exact get?_reported _ group

/-- A read that was sent first and answered last does not set the shared watermark back. -/
example :
    let reading (version : Version) : Delivery :=
      { answer := fun
          | .query _ => .ok { context := { watermark := .ofList [(1, version)] } }
          | call => .ok call.emptyReply }
    ((ofPool .asynchronous (.ofEndpoints [{}]) .zero).run
      [.step (.begin "first" .readWrite none false) rfl [],
        .step (.begin "second" .readWrite none false) rfl [],
        .start "first" (.query "" .empty) 0,
        .step (.operate "second" (.query "" .empty)) rfl [reading 5],
        .answer "first" (reading 3)]).session.client.watermark.get? 1 = some 5 := by
  decide

/-- A call that was sent is explained by the entries before it. -/
theorem explains_sent {before after : List Entry} {name : String} {call : Call}
    (split : ((ofPool flavour pool timeout).run moves).log = before ++ .sent name call :: after) :
    ((Book.ofLog before).account name).isBegun = true ∧
      ∀ carried, call.watermark? = some carried →
        carried = reported ((Book.ofLog before).account name).known := by
  have explained := (consistent_run flavour pool timeout moves).explained
  rw [split] at explained
  exact (Book.explained_append.1 explained).2.1

/-- Every call carries of each group the highest version among the replies accepted before its
transaction was begun and those that the transaction has accepted since. So it dominates all that had
been accepted at the start, and it dominates the earlier calls of its transaction. -/
theorem sent_watermark_eq_highest_known (flavour : Flavour) (pool : Pool) (timeout : Duration)
    (moves : List Move) :
    let log := ((ofPool flavour pool timeout).run moves).log
    (∀ before name call after carried, log = before ++ .sent name call :: after →
        call.watermark? = some carried →
        ∃ earlier between, before = earlier ++ .begun name :: between ∧
          Entry.begun name ∉ between ∧
          (∀ group, carried.get? group = Watermark.highest
            (((Book.ofLog earlier).accepted ++ learnt (Entry.answers name between)).map
              fun reply => reply.watermark) group) ∧
          ∀ reply ∈ (Book.ofLog earlier).accepted, carried.dominates reply.watermark = true) ∧
      (∀ before name first between second after lower higher,
        log = before ++ .sent name first :: (between ++ .sent name second :: after) →
        Entry.begun name ∉ between → first.watermark? = some lower →
        second.watermark? = some higher → higher.dominates lower = true) := by
  intro log
  constructor
  · intro before name call after carried split carries
    obtain ⟨begun, explained⟩ := explains_sent split
    obtain ⟨earlier, between, rfl, lasting, account⟩ := Book.account_of_begun begun
    have known := explained carried carries
    rw [account] at known
    refine ⟨earlier, between, rfl, lasting, ?_, ?_⟩
    · intro group
      rw [known]
      exact get?_reported _ group
    · intro reply member
      rw [← Watermark.le_iff_dominates, known]
      exact le_reported (List.mem_append_left _ member)
  · intro before name first between second after lower higher split lasting carriesFirst carriesSecond
    have low := (explains_sent split).2 lower carriesFirst
    rw [List.append_cons, ← List.append_assoc] at split
    have high := (explains_sent split).2 higher carriesSecond
    have since : Entry.begun name ∉ .sent name first :: between := by
      rw [List.mem_cons, not_or]
      exact ⟨Entry.noConfusion, lasting⟩
    rw [← List.append_cons, Book.ofLog_append, Book.account_readAll_of_lasting _ since] at high
    rw [← Watermark.le_iff_dominates, low, high]
    exact Account.known_le_extend _ _

end Concurrent

end GraphClient
