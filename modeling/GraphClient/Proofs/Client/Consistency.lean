import GraphClient.Proofs.Client.Book
import GraphClient.Proofs.Transaction.Tally

namespace GraphClient

open Ledger

namespace Book

/-- The transaction holds what the book says of it, and nothing that the book does not hold. -/
structure Tracks (book : Book) (name : String) (transaction : Transaction) (past : List Exchange) :
    Prop where
  begun : (book.account name).isBegun = true
  reflects : transaction.Reflects (reported (book.account name).seen) past
  below : transaction.context.watermark ≤ book.watermark

/-- An operation of the transaction waits for the answer to the call in flight. -/
def Awaits (book : Book) (name : String) (flight : Flight) : Prop :=
  ∃ transaction operation past events, book.Tracks name transaction past ∧
    (book.account name).exchanges = past ++ Event.exchanges events ∧
    (transaction.perform operation).Leads events (.call flight.message flight.resume)

variable {book later : Book} {name : String} {transaction after : Transaction}
  {past : List Exchange} {operation : Operation} {outcome : Outcome} {events : List Event}

/-- A transaction is still tracked when others have added to the book. -/
theorem Tracks.mono (tracks : book.Tracks name transaction past)
    (same : later.account name = book.account name) (grown : book.watermark ≤ later.watermark) :
    later.Tracks name transaction past where
  begun := same ▸ tracks.begun
  reflects := same ▸ tracks.reflects
  below := le_trans tracks.below grown

/-- A call of the transaction carries what the book knows of it, if nothing else was learnt since. -/
theorem Tracks.carries (tracks : book.Tracks name transaction past) {call : Call}
    (sends : transaction.Sends operation call) {carried : Watermark}
    (carries : call.watermark? = some carried) :
    carried = reported ((book.account name).seen ++ learnt past) := by
  rw [sends.watermark carries, tracks.reflects.watermark, reported_append]

/-- After an operation that was carried out at once, the book holds what the operation has folded. -/
theorem Tracks.performed
    (tracks : book.Tracks name transaction (book.account name).exchanges)
    (performed : transaction.Performs operation events outcome after) :
    (book.follow name (Event.exchanges events)).watermark =
        book.watermark ⊔ Watermark.join (Event.folds events) ∧
      (book.follow name (Event.exchanges events)).Tracks name after
        ((book.follow name (Event.exchanges events)).account name).exchanges ∧
      book.Explained (Entry.ofExchanges name (Event.exchanges events)) := by
  obtain ⟨accepted, account⟩ := book.follow_eq name (Event.exchanges events)
  have learns := performed.learns tracks.reflects
  have raised : (book.follow name (Event.exchanges events)).watermark =
      book.watermark ⊔ Watermark.join (Event.folds events) := by
    rw [learns.tally tracks.below, watermark, accepted, reported_append]
    rfl
  constructor
  · exact raised
  constructor
  · constructor
    · rw [account]
      exact tracks.begun
    · rw [account]
      exact learns.reflects tracks.reflects
    · rw [raised]
      exact learns.below tracks.below
  · apply explained_ofExchanges tracks.begun
    intro before exchange rest split carried carries
    have member : exchange ∈ Event.exchanges events := by simp [split]
    rw [learns.learnt_before split]
    exact tracks.carries (performed.sends_of_exchange member) carries

end Book

namespace Concurrent

/-- What the log tells so far. -/
def book (state : Concurrent) : Book :=
  .ofLog state.log

/-- The book accounts for what one transaction holds, or for what its operation waits for. -/
structure Accounts (state : Concurrent) (name : String) : Prop where
  idle : ∀ transaction, state.session.transaction? name = some transaction →
    state.flight? name = none →
      state.book.Tracks name transaction (state.book.account name).exchanges
  busy : ∀ flight, state.flight? name = some flight → state.book.Awaits name flight

/-- The shared watermark, all transactions and all calls agree with the book. -/
structure Consistent (state : Concurrent) : Prop where
  shared : state.session.client.watermark = state.book.watermark
  accounts : ∀ name, state.Accounts name
  explained : Book.Explained {} state.log

variable {state later : Concurrent} {name : String}

theorem book_append {entries : List Entry} (log : later.log = state.log ++ entries) :
    later.book = state.book.readAll entries := by
  rw [book, log, Book.ofLog_append]
  rfl

/-- What happens to other transactions does not touch the account of this one. -/
theorem Accounts.frame {entries : List Entry} (accounts : state.Accounts name)
    (log : later.log = state.log ++ entries) (others : ∀ entry ∈ entries, name ≠ entry.name)
    (transaction : later.session.transaction? name = state.session.transaction? name)
    (flight : later.flight? name = state.flight? name) : later.Accounts name := by
  have same : later.book.account name = state.book.account name := by
    rw [book_append log, Book.account_readAll_of_ne _ others]
  have grown : state.book.watermark ≤ later.book.watermark := by
    rw [book_append log]
    exact state.book.watermark_le_readAll entries
  constructor
  · intro held known free
    rw [transaction] at known
    rw [flight] at free
    rw [same]
    exact (accounts.idle held known free).mono same grown
  · intro waiting flies
    rw [flight] at flies
    obtain ⟨held, operation, past, events, tracks, exchanges, leads⟩ := accounts.busy waiting flies
    exact ⟨held, operation, past, events, tracks.mono same grown, same ▸ exchanges, leads⟩

theorem Accounts.frame_quiet (accounts : state.Accounts name) (log : later.log = state.log)
    (transaction : later.session.transaction? name = state.session.transaction? name)
    (flight : later.flight? name = state.flight? name) : later.Accounts name := by
  have quiet : later.log = state.log ++ [] := by rw [log, List.append_nil]
  exact accounts.frame quiet (by simp) transaction flight

/-- A log stays explained when entries are added that its book explains. -/
theorem explained_append {entries : List Entry} (explained : Book.Explained {} state.log)
    (log : later.log = state.log ++ entries) (next : state.book.Explained entries) :
    Book.Explained {} later.log := by
  rw [log]
  exact Book.explained_append.2 ⟨explained, next⟩

section Pausing

variable {transaction : Transaction} {operation : Operation} {past : List Exchange}
  {events : List Event} {plan : Plan (Outcome × Transaction)}

/-- What has to be known before an operation goes on: the book may already hold a reply that the
operation has not folded yet. -/
structure Resumes (state : Concurrent) (name : String) (transaction : Transaction)
    (operation : Operation) (past : List Exchange) (events : List Event)
    (plan : Plan (Outcome × Transaction)) : Prop where
  begun : (state.book.account name).isBegun = true
  leads : (transaction.perform operation).Leads events plan
  reflects : transaction.Reflects (reported (state.book.account name).seen) past
  below : transaction.context.watermark ≤ state.session.client.watermark
  exchanges : (state.book.account name).exchanges = past ++ Event.exchanges events
  unfolded : Event.folds events = []
  shared : state.book.watermark = state.session.client.watermark ⊔
    reported (acceptedAfter past (Event.exchanges events))
  others : ∀ other, other ≠ name → state.Accounts other
  explained : Book.Explained {} state.log

/-- What is known before an operation goes on is enough to track its transaction. -/
theorem Resumes.tracks
    (resumes : state.Resumes name transaction operation past events plan) :
    state.book.Tracks name transaction past where
  begun := resumes.begun
  reflects := resumes.reflects
  below := by
    rw [resumes.shared]
    exact le_sup_of_le_left resumes.below

/-- An operation that has come to its end has folded what it has accepted. -/
theorem Resumes.ended {more : List Event} {outcome : Outcome} {after : Transaction}
    {client : Client} (resumes : state.Resumes name transaction operation past events plan)
    (onward : plan.Leads more (.done (outcome, after))) (unsent : Event.exchanges more = [])
    (raised : client.watermark =
      state.session.client.watermark ⊔ Watermark.join (Event.folds more)) :
    (state.pause name (.ended outcome after, client)).Consistent := by
  -- All events since the start of the operation together are one course of it.
  have learns := (Transaction.performs_of_yields (resumes.leads.append onward)).learns
    resumes.reflects
  have sent : Event.exchanges (events ++ more) = Event.exchanges events := by
    rw [Event.exchanges_append, unsent, List.append_nil]
  have folded : Event.folds (events ++ more) = Event.folds more := by
    rw [Event.folds_append, resumes.unfolded, List.nil_append]
  have shared : client.watermark = state.book.watermark := by
    rw [raised, ← folded, learns.tally resumes.below, sent, resumes.shared]
  have reflects := learns.reflects resumes.reflects
  have below := learns.below resumes.below
  rw [sent, ← resumes.exchanges] at reflects
  rw [folded, ← raised, shared] at below
  constructor
  · exact shared
  · intro other
    by_cases own : other = name
    · constructor
      · intro held known free
        rw [transaction?_pause_ended, if_pos own, Option.some.injEq] at known
        rw [← known, own]
        exact ⟨resumes.begun, reflects, below⟩
      · intro flight flies
        simp [own] at flies
    · apply (resumes.others other own).frame_quiet
      · rfl
      · simp [own]
      · simp [own]
  · exact resumes.explained

/-- An operation that waits has not accepted anything, and its call carries what is known. -/
theorem Resumes.waiting {more : List Event} {flight : Flight} {client : Client}
    (resumes : state.Resumes name transaction operation past events plan)
    (onward : plan.Leads more (.call flight.message flight.resume))
    (unsent : Event.exchanges more = [])
    (raised : client.watermark =
      state.session.client.watermark ⊔ Watermark.join (Event.folds more)) :
    (state.pause name (.waiting flight, client)).Consistent := by
  have leads := resumes.leads.append onward
  have waits := Transaction.waits_of_leads leads resumes.reflects
  have sent : Event.exchanges (events ++ more) = Event.exchanges events := by
    rw [Event.exchanges_append, unsent, List.append_nil]
  have unfolded : Event.folds more = [] := by
    have none := waits.unfolded
    rw [Event.folds_append, resumes.unfolded, List.nil_append] at none
    exact none
  have rejected : ∀ exchange ∈ Event.exchanges events, accepted? past exchange = none := by
    rw [← sent]
    exact waits.rejected
  have noted : (state.pause name (.waiting flight, client)).log =
      state.log ++ [.sent name flight.message] := rfl
  have same : (state.pause name (.waiting flight, client)).book = state.book := book_append noted
  constructor
  · change client.watermark = _
    rw [raised, unfolded, same, resumes.shared, acceptedAfter_of_rejected rejected]
    rfl
  · intro other
    by_cases own : other = name
    · constructor
      · intro held known free
        simp [own] at free
      · intro found flies
        rw [flight?_pause_waiting, if_pos own, Option.some.injEq] at flies
        rw [same, own, ← flies]
        have exchanges := resumes.exchanges
        rw [← sent] at exchanges
        exact ⟨transaction, operation, past, events ++ more, resumes.tracks, exchanges, leads⟩
    · apply (resumes.others other own).frame noted
      · simpa [Entry.name] using own
      · rfl
      · simp [own]
  · apply explained_append resumes.explained noted
    refine ⟨⟨resumes.begun, ?_⟩, trivial⟩
    intro carried carries
    rw [Account.known, resumes.exchanges, learnt_append_of_rejected rejected]
    exact resumes.tracks.carries waits.sends carries

/-- Wherever an operation pauses next, all agrees with the book again. -/
theorem Resumes.consistent (resumes : state.Resumes name transaction operation past events plan)
    (draw : Nat) :
    (state.pause name (plan.advance draw state.session.client)).Consistent := by
  obtain ⟨more, onward, unsent, raised⟩ := plan.advance_leads draw state.session.client
  generalize plan.advance draw state.session.client = reached at onward raised ⊢
  obtain ⟨pause, client⟩ := reached
  cases pause with
  | ended outcome after => exact resumes.ended onward unsent raised
  | waiting flight => exact resumes.waiting onward unsent raised

end Pausing

section Moving

/-- Starting an operation keeps a client consistent. -/
theorem start_consistent (consistent : state.Consistent) (name : String) (operation : Operation)
    (draw : Nat) : (state.start name operation draw).Consistent := by
  rw [start]
  split
  next transaction free known =>
    have tracks := (consistent.accounts name).idle transaction known free
    have resumes : state.Resumes name transaction operation (state.book.account name).exchanges []
        (transaction.perform operation) :=
      { begun := tracks.begun
        leads := .stay _
        reflects := tracks.reflects
        below := consistent.shared ▸ tracks.below
        exchanges := (List.append_nil _).symm
        unfolded := rfl
        shared := consistent.shared.symm.trans (sup_bot_eq _).symm
        others := fun other _ => consistent.accounts other
        explained := consistent.explained }
    exact resumes.consistent draw
  next => exact consistent

/-- An answer that arrives is noted in the book before the operation goes on. -/
theorem answer_consistent (consistent : state.Consistent) (name : String) (delivery : Delivery) :
    (state.answer name delivery).Consistent := by
  rw [answer]
  split
  next => exact consistent
  next flight flies =>
    obtain ⟨transaction, operation, past, events, tracks, exchanges, leads⟩ :=
      (consistent.accounts name).busy flight flies
    have waits := Transaction.waits_of_leads leads tracks.reflects
    let exchange := state.arrival flight delivery
    -- The book already has the reply here, while the shared watermark may still lack it.
    let answered : Concurrent := { state with log := state.log ++ [.answered name exchange] }
    have noted : answered.book = state.book.readAll [.answered name exchange] := book_append rfl
    have account : answered.book.account name = (state.book.account name).extend [exchange] := by
      rw [noted, Book.readAll_cons, Book.readAll_nil, Book.account_read_answered]
    have resumes : answered.Resumes name transaction operation past
        (events ++ [.exchanged exchange])
        (flight.resume (exchange.answer.mapError .refused)) :=
      { begun := by
          rw [account]
          exact tracks.begun
        leads := leads.append (.call (.exchanged _ _ exchange.answer) (.stay _))
        reflects := by
          rw [account]
          exact tracks.reflects
        below := by
          change _ ≤ state.session.client.watermark
          rw [consistent.shared]
          exact tracks.below
        exchanges := by
          rw [account, Account.extend, exchanges, Event.exchanges_append, List.append_assoc]
          rfl
        unfolded := by
          rw [Event.folds_append, waits.unfolded]
          rfl
        shared := by
          rw [Event.exchanges_append, acceptedAfter_append,
            acceptedAfter_of_rejected waits.rejected, List.nil_append, ← exchanges]
          change _ = state.session.client.watermark ⊔ reported (acceptedAfter _ [exchange])
          rw [acceptedAfter_singleton, consistent.shared, noted]
          exact reported_append _ _
        others := fun other own =>
          (consistent.accounts other).frame rfl
            (fun entry member => by rw [List.mem_singleton.1 member]; exact own) rfl rfl
        explained := explained_append consistent.explained rfl ⟨trivial, trivial⟩ }
    exact resumes.consistent delivery.draw

end Moving

end Concurrent

end GraphClient
