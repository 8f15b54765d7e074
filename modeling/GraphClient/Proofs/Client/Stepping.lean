import GraphClient.Proofs.Client.Consistency

namespace GraphClient

open Ledger

/-- A single call of the client itself folds nothing. -/
theorem Session.ask_call {Value : Type} (session : Session) (inbox : List Delivery) (message : Call)
    (finish : Except CallFailure message.Reply → Except ClientError Value)
    (outcome : Value → Outcome) :
    (session.ask inbox (.call message fun answer => .done (finish answer)) outcome).2.client.watermark
        = session.client.watermark := by
  obtain ⟨event, got, shown⟩ := (session.surroundings inbox).exchange_gets message
  exact shown.unchanged got.folds_eq_nil

/-- Letting a transaction go leaves the watermark of the book as it is. -/
theorem Book.Tracks.released {book : Book} {name : String} {transaction : Transaction}
    {events : List Event}
    (tracks : book.Tracks name transaction (book.account name).exchanges)
    (released : events = [] ∨ ∃ after, transaction.Releases events after) :
    Event.folds events = [] ∧
      (book.follow name (Event.exchanges events)).watermark = book.watermark ∧
      book.Explained (Entry.ofExchanges name (Event.exchanges events)) := by
  rcases released with rfl | ⟨after, releases⟩
  · exact ⟨rfl, rfl, trivial⟩
  · obtain ⟨raised, -, explained⟩ := tracks.performed (.discarded releases)
    rw [releases.folds_eq_nil] at raised
    exact ⟨releases.folds_eq_nil, raised.trans (sup_bot_eq _), explained⟩

namespace Concurrent

variable {state : Concurrent} {name : String}

/-- A step that leaves the transactions and the shared watermark alone changes nothing. -/
theorem Consistent.still (consistent : state.Consistent) {session : Session}
    (transactions : session.transactions = state.session.transactions)
    (shared : session.client.watermark = state.session.client.watermark) :
    Consistent { state with session := session, log := state.log ++ [] } := by
  rw [List.append_nil]
  constructor
  · exact shared.trans consistent.shared
  · intro name
    apply (consistent.accounts name).frame_quiet
    · rfl
    · simp [Session.transaction?, transactions]
    · rfl
  · exact consistent.explained

/-- A step that concerns one transaction, which does not wait for an answer. -/
theorem Consistent.named (consistent : state.Consistent) (free : state.flight? name = none)
    {session : Session} {entries : List Entry} (own : ∀ entry ∈ entries, entry.name = name)
    (others : ∀ other, other ≠ name →
      session.transaction? other = state.session.transaction? other)
    (shared : session.client.watermark = (state.book.readAll entries).watermark)
    (held : ∀ transaction, session.transaction? name = some transaction →
      (state.book.readAll entries).Tracks name transaction
        ((state.book.readAll entries).account name).exchanges)
    (explained : state.book.Explained entries) :
    Consistent { state with session := session, log := state.log ++ entries } := by
  have noted : book { state with session := session, log := state.log ++ entries } =
      state.book.readAll entries := book_append rfl
  constructor
  · rw [noted]
    exact shared
  · intro other
    by_cases same : other = name
    · subst same
      constructor
      · intro transaction known _
        rw [noted]
        exact held transaction known
      · intro flight flies
        change state.flight? other = some flight at flies
        rw [free] at flies
        cases flies
    · apply (consistent.accounts other).frame rfl
      · intro entry member
        rw [own entry member]
        exact same
      · exact others other same
      · rfl
  · exact explained_append consistent.explained rfl explained

/-- An operation that is carried out at once keeps a client consistent. -/
theorem operate_consistent (consistent : state.Consistent) (free : state.flight? name = none)
    (inbox : List Delivery) (operation : Operation) :
    Consistent
      { state with
        session := (state.session.operate inbox name operation).2
        log := state.log ++
          Entry.ofExchanges name (state.session.operate inbox name operation).1.exchanges } := by
  rw [Session.operate]
  split
  next => exact consistent.still rfl rfl
  next transaction known =>
    have tracks := (consistent.accounts name).idle transaction known free
    obtain ⟨events, yields, shown⟩ :=
      (transaction.perform operation).run_yields (state.session.surroundings inbox)
    obtain ⟨raised, held, explained⟩ := tracks.performed (Transaction.performs_of_yields yields)
    have sent : ((transaction.perform operation).run
        (state.session.surroundings inbox)).2.traffic.exchanges = Event.exchanges events :=
      shown.exchanges
    dsimp only [Surroundings.record]
    rw [sent]
    apply consistent.named free
    · exact fun entry => Entry.name_of_mem_ofExchanges
    · intro other own
      exact (Session.transaction?_insert _ _ _ _ _).trans (if_neg own)
    · change _ = (state.book.follow name (Event.exchanges events)).watermark
      rw [raised, ← consistent.shared]
      exact shown.shared
    · intro after found
      have inserted := (Session.transaction?_insert _ _ _ _ _).symm.trans found
      rw [if_pos rfl, Option.some.injEq] at inserted
      rw [← inserted]
      exact held
    · exact explained

/-- A transaction that is dropped accepts nothing, so the client stays consistent. -/
theorem drop_consistent (consistent : state.Consistent) (free : state.flight? name = none)
    (inbox : List Delivery) (mayNotBlock : Bool) :
    Consistent
      { state with
        session := (state.session.drop inbox name mayNotBlock).2
        log := state.log ++
          Entry.ofExchanges name (state.session.drop inbox name mayNotBlock).1.exchanges } := by
  rw [Session.drop]
  split
  next => exact consistent.still rfl rfl
  next old known =>
    have tracks := (consistent.accounts name).idle old known free
    obtain ⟨events, released, shown⟩ := Session.dropPlan_run state.session.flavour mayNotBlock old
      (state.session.surroundings inbox)
    obtain ⟨unfolded, same, explained⟩ := tracks.released released
    have sent : ((Session.dropPlan state.session.flavour mayNotBlock old).run
        (state.session.surroundings inbox)).2.traffic.exchanges = Event.exchanges events :=
      shown.exchanges
    dsimp only [Surroundings.record]
    rw [sent]
    apply consistent.named free
    · exact fun entry => Entry.name_of_mem_ofExchanges
    · intro other own
      exact (Session.transaction?_erase _ _ _ _).trans (if_neg own)
    · change _ = (state.book.follow name (Event.exchanges events)).watermark
      rw [same, ← consistent.shared]
      exact shown.unchanged unfolded
    · intro transaction found
      have erased := (Session.transaction?_erase _ _ _ _).symm.trans found
      rw [if_pos rfl] at erased
      cases erased
    · exact explained

/-- What the transaction of the same name leaves when a new one takes its place. -/
theorem begin_released (consistent : state.Consistent) (free : state.flight? name = none)
    (inbox : List Delivery) (mode : Mode) (seed : Option Watermark) (mayNotBlock : Bool) :
    ∃ events, (state.session.begin inbox name mode seed mayNotBlock).1.exchanges =
        Event.exchanges events ∧
      (state.session.begin inbox name mode seed mayNotBlock).2.client.watermark =
        state.session.client.watermark ∧
      (state.book.follow name (Event.exchanges events)).watermark = state.book.watermark ∧
      state.book.Explained (Entry.ofExchanges name (Event.exchanges events)) := by
  rw [Session.begin]
  split
  next => exact ⟨[], rfl, rfl, rfl, trivial⟩
  next old known =>
    have tracks := (consistent.accounts name).idle old known free
    obtain ⟨events, released, shown⟩ := Session.dropPlan_run state.session.flavour mayNotBlock old
      (state.session.surroundings inbox)
    obtain ⟨unfolded, same, explained⟩ := tracks.released released
    exact ⟨events, shown.exchanges, shown.unchanged unfolded, same, explained⟩

/-- A new transaction knows what has been accepted up to its start. -/
theorem begin_consistent (consistent : state.Consistent) (free : state.flight? name = none)
    (inbox : List Delivery) (mode : Mode) (mayNotBlock : Bool) :
    Consistent
      { state with
        session := (state.session.begin inbox name mode none mayNotBlock).2
        log := state.log ++
          (Entry.ofExchanges name
            (state.session.begin inbox name mode none mayNotBlock).1.exchanges ++
              [.begun name]) } := by
  obtain ⟨events, sent, unchanged, same, explained⟩ :=
    begin_released consistent free inbox mode none mayNotBlock
  rw [sent]
  have accepted : (state.book.readAll
      (Entry.ofExchanges name (Event.exchanges events) ++ [.begun name])).watermark =
      state.book.watermark := by
    rw [Book.readAll_append]
    exact same
  have account : (state.book.readAll
      (Entry.ofExchanges name (Event.exchanges events) ++ [.begun name])).account name =
      { isBegun := true
        seen := (state.book.follow name (Event.exchanges events)).accepted } := by
    rw [Book.readAll_append, Book.readAll_cons, Book.readAll_nil, Book.account_read_begun]
    rfl
  apply consistent.named free
  · intro entry member
    rcases List.mem_append.1 member with exchanged | begun
    · exact Entry.name_of_mem_ofExchanges exchanged
    · rw [List.mem_singleton.1 begun]
      rfl
  · intro other own
    exact (Session.transaction?_insert _ _ _ _ _).trans (if_neg own)
  · rw [unchanged, accepted, consistent.shared]
  · intro transaction found
    have inserted := (Session.transaction?_insert _ _ _ _ _).symm.trans found
    rw [if_pos rfl, Option.some.injEq] at inserted
    rw [← inserted]
    constructor
    · rw [account]
    · rw [account]
      change Transaction.Reflects _ (Book.watermark _) []
      rw [same, ← consistent.shared]
      exact Transaction.start_reflects mode _
    · rw [accepted, ← consistent.shared]
      exact le_refl _
  · exact Book.explained_append.2 ⟨explained, trivial, trivial⟩

/-- A step that is taken at once keeps a client consistent: it is an operation, or it lets a
transaction go, or it does not concern the transactions. -/
theorem step_consistent (consistent : state.Consistent) (step : Step) (unseeded : step.seed? = none)
    (inbox : List Delivery) : (state.step step inbox).Consistent := by
  cases free : step.name?.any state.isBusy with
  | true =>
      rw [Concurrent.step, free, if_pos rfl]
      exact consistent
  | false =>
      rw [step_of_free free]
      have idle {name : String} (named : step.name? = some name) : state.flight? name = none := by
        rw [named, Option.any_some, isBusy, Option.isSome_eq_false_iff, Option.isNone_iff_eq_none]
          at free
        exact free
      cases step with
      | clone => exact consistent.still rfl rfl
      | begin name mode seed mayNotBlock =>
          change seed = none at unseeded
          subst unseeded
          exact begin_consistent consistent (idle rfl) inbox mode mayNotBlock
      | drop name mayNotBlock => exact drop_consistent consistent (idle rfl) inbox mayNotBlock
      | operate name operation => exact operate_consistent consistent (idle rfl) inbox operation
      | alter change => exact consistent.still rfl (Session.ask_call _ _ _ _ _)
      | checkVersion => exact consistent.still rfl (Session.ask_call _ _ _ _ _)
      | close => exact consistent.still rfl rfl
      | shutdown => exact consistent.still rfl rfl
      | look => exact consistent.still rfl rfl

/-- A new client has accepted nothing. -/
theorem ofPool_consistent (flavour : Flavour) (pool : Pool) (timeout : Duration) :
    (ofPool flavour pool timeout).Consistent where
  shared := rfl
  accounts name :=
    { idle := fun _ known _ => by cases known
      busy := fun _ flies => by cases flies }
  explained := trivial

/-- Whatever moves are made, a client remains consistent. -/
theorem consistent_run (flavour : Flavour) (pool : Pool) (timeout : Duration) (moves : List Move) :
    ((ofPool flavour pool timeout).run moves).Consistent := by
  apply run_induction _ (ofPool_consistent flavour pool timeout)
  intro state move consistent
  cases move with
  | step step unseeded inbox => exact step_consistent consistent step unseeded inbox
  | start name operation draw => exact start_consistent consistent name operation draw
  | answer name delivery => exact answer_consistent consistent name delivery

end Concurrent

end GraphClient
