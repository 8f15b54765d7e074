import GraphClient.Proofs.Client.Concurrent
import GraphClient.Proofs.Transaction.Ledger

namespace GraphClient

open Ledger

/-- An element of a list has a last occurrence. -/
theorem exists_last_occurrence {Element : Type} {sought : Element} {elements : List Element}
    (member : sought ∈ elements) :
    ∃ before after, elements = before ++ sought :: after ∧ sought ∉ after := by
  induction elements with
  | nil => cases member
  | cons first rest inductionHypothesis =>
      by_cases later : sought ∈ rest
      · obtain ⟨before, after, rfl, last⟩ := inductionHypothesis later
        exact ⟨first :: before, after, rfl, last⟩
      · rcases List.mem_cons.1 member with rfl | again
        · exact ⟨[], rest, rfl, later⟩
        · exact absurd again later

/-- The account of a transaction: whether it was begun at all, the replies that had been accepted by
then, and its own exchanges since. -/
structure Account where
  isBegun : Bool := false
  seen : List WireContext := []
  exchanges : List Exchange := []

/-- The replies whose watermarks the transaction has reason to know. -/
def Account.known (account : Account) : List WireContext :=
  account.seen ++ learnt account.exchanges

/-- The account after further exchanges. -/
def Account.extend (account : Account) (exchanges : List Exchange) : Account :=
  { account with exchanges := account.exchanges ++ exchanges }

theorem Account.extend_nil (account : Account) : account.extend [] = account := by
  rw [extend, List.append_nil]

theorem Account.extend_extend (account : Account) (first second : List Exchange) :
    (account.extend first).extend second = account.extend (first ++ second) :=
  congrArg (Account.mk _ _) (List.append_assoc _ _ _)

/-- The answer that the entry notes for this transaction. -/
def Entry.answer? (name : String) : Entry → Option Exchange
  | answered own exchange => if own = name then some exchange else none
  | begun _ | sent _ _ => none

/-- The exchanges of one transaction among the entries. -/
def Entry.answers (name : String) (entries : List Entry) : List Exchange :=
  entries.filterMap (answer? name)

/-- All replies that have been accepted, and the account of each transaction. -/
structure Book where
  accepted : List WireContext := []
  account : String → Account := fun _ => {}

namespace Book

/-- Reads the next entry of the log. -/
def read (book : Book) : Entry → Book
  | .begun name =>
    { book with
      account := Function.update book.account name { isBegun := true, seen := book.accepted } }
  | .sent _ _ => book
  | .answered name exchange =>
    { accepted := book.accepted ++ (accepted? (book.account name).exchanges exchange).toList
      account := Function.update book.account name ((book.account name).extend [exchange]) }

def readAll (book : Book) (entries : List Entry) : Book :=
  entries.foldl read book

def ofLog (log : List Entry) : Book :=
  readAll {} log

/-- Reads exchanges of one transaction that followed one another. -/
def follow (book : Book) (name : String) (exchanges : List Exchange) : Book :=
  book.readAll (Entry.ofExchanges name exchanges)

/-- The highest versions that any accepted reply reports. -/
def watermark (book : Book) : Watermark :=
  reported book.accepted

@[simp] theorem readAll_nil (book : Book) : book.readAll [] = book :=
  rfl

@[simp] theorem readAll_cons (book : Book) (entry : Entry) (rest : List Entry) :
    book.readAll (entry :: rest) = (book.read entry).readAll rest :=
  rfl

@[simp] theorem readAll_append (book : Book) (first second : List Entry) :
    book.readAll (first ++ second) = (book.readAll first).readAll second :=
  List.foldl_append

theorem ofLog_append (log entries : List Entry) :
    ofLog (log ++ entries) = (ofLog log).readAll entries :=
  readAll_append {} log entries

@[simp] theorem account_read_begun (book : Book) (name : String) :
    (book.read (.begun name)).account name = { isBegun := true, seen := book.accepted } :=
  Function.update_self _ _ _

@[simp] theorem account_read_answered (book : Book) (name : String) (exchange : Exchange) :
    (book.read (.answered name exchange)).account name = (book.account name).extend [exchange] :=
  Function.update_self _ _ _

/-- An entry concerns the account of its own transaction only. -/
theorem account_read_of_ne (book : Book) {entry : Entry} {name : String}
    (other : name ≠ entry.name) : (book.read entry).account name = book.account name := by
  cases entry with
  | begun own => exact Function.update_of_ne other _ _
  | sent own call => rfl
  | answered own exchange => exact Function.update_of_ne other _ _

/-- Entries under other names leave an account as it is. -/
theorem account_readAll_of_ne (book : Book) {entries : List Entry} {name : String}
    (others : ∀ entry ∈ entries, name ≠ entry.name) :
    (book.readAll entries).account name = book.account name := by
  induction entries generalizing book with
  | nil => rfl
  | cons entry rest inductionHypothesis =>
      have first := account_read_of_ne book (others entry List.mem_cons_self)
      rw [readAll_cons, inductionHypothesis, first]
      intro later member
      exact others later (List.mem_cons_of_mem _ member)

/-- Replies that have been accepted stay in the book. -/
theorem watermark_le_readAll (book : Book) (entries : List Entry) :
    book.watermark ≤ (book.readAll entries).watermark := by
  induction entries generalizing book with
  | nil => exact le_refl _
  | cons entry rest inductionHypothesis =>
      refine le_trans ?_ (inductionHypothesis (book.read entry))
      cases entry with
      | begun name => exact le_refl _
      | sent name call => exact le_refl _
      | answered name exchange =>
          change reported book.accepted ≤ reported (book.accepted ++ _)
          rw [reported_append]
          exact le_sup_left

/-- Until a transaction is begun anew its account only gains exchanges. -/
theorem account_readAll_of_lasting (book : Book) {entries : List Entry} {name : String}
    (lasting : Entry.begun name ∉ entries) :
    (book.readAll entries).account name =
      (book.account name).extend (Entry.answers name entries) := by
  induction entries generalizing book with
  | nil => exact (Account.extend_nil _).symm
  | cons entry rest inductionHypothesis =>
      rw [List.mem_cons, not_or] at lasting
      rw [readAll_cons, inductionHypothesis _ lasting.2]
      by_cases own : name = entry.name
      · cases entry with
        | begun other => exact absurd (congrArg Entry.begun own) lasting.1
        | sent other call => rfl
        | answered other exchange =>
            change name = other at own
            subst own
            rw [account_read_answered, Account.extend_extend, Entry.answers, Entry.answers,
              List.filterMap_cons, Entry.answer?, if_pos rfl]
            rfl
      · rw [account_read_of_ne book own, Entry.answers, Entry.answers, List.filterMap_cons]
        cases entry with
        | begun other => rfl
        | sent other call => rfl
        | answered other exchange =>
            rw [Entry.answer?, if_neg fun same => own same.symm]

/-- The account of a transaction that was begun starts where the log last says so. -/
theorem account_of_begun {log : List Entry} {name : String}
    (begun : ((ofLog log).account name).isBegun = true) :
    ∃ earlier between, log = earlier ++ .begun name :: between ∧ Entry.begun name ∉ between ∧
      (ofLog log).account name = ⟨true, (ofLog earlier).accepted, Entry.answers name between⟩ := by
  by_cases member : Entry.begun name ∈ log
  · obtain ⟨earlier, between, rfl, lasting⟩ := exists_last_occurrence member
    refine ⟨earlier, between, rfl, lasting, ?_⟩
    rw [ofLog_append, readAll_cons, account_readAll_of_lasting _ lasting, account_read_begun]
    rfl
  · rw [ofLog, account_readAll_of_lasting _ member] at begun
    cases begun

/-- Exchanges that follow one another are accepted as those of their transaction. -/
theorem follow_eq (book : Book) (name : String) (exchanges : List Exchange) :
    (book.follow name exchanges).accepted =
        book.accepted ++ acceptedAfter (book.account name).exchanges exchanges ∧
      (book.follow name exchanges).account name = (book.account name).extend exchanges := by
  induction exchanges generalizing book with
  | nil =>
      constructor
      · exact (List.append_nil _).symm
      · exact (Account.extend_nil _).symm
  | cons exchange rest inductionHypothesis =>
      obtain ⟨accepted, account⟩ := inductionHypothesis (book.read (.answered name exchange))
      rw [account_read_answered] at accepted account
      constructor
      · rw [acceptedAfter, ← List.append_assoc]
        exact accepted
      · rw [Account.extend_extend] at account
        exact account

/-- A call that is sent carries all that its transaction has reason to know. -/
def Explains (book : Book) : Entry → Prop
  | .sent name call =>
    (book.account name).isBegun = true ∧
      ∀ carried, call.watermark? = some carried → carried = reported (book.account name).known
  | .begun _ | .answered _ _ => True

/-- Every entry is explained by those before it. -/
def Explained (book : Book) : List Entry → Prop
  | [] => True
  | entry :: rest => book.Explains entry ∧ (book.read entry).Explained rest

/-- A log is explained part by part, the later one by the book of the earlier. -/
theorem explained_append {book : Book} {first second : List Entry} :
    book.Explained (first ++ second) ↔
      book.Explained first ∧ (book.readAll first).Explained second := by
  induction first generalizing book with
  | nil => exact ⟨fun explained => ⟨trivial, explained⟩, And.right⟩
  | cons entry rest inductionHypothesis =>
      rw [List.cons_append, Explained, Explained, inductionHypothesis, readAll_cons, and_assoc]

/-- Exchanges are explained if each call carries what was known when it was sent. -/
theorem explained_ofExchanges {book : Book} {name : String} {exchanges : List Exchange}
    (begun : (book.account name).isBegun = true)
    (carries : ∀ before exchange after, exchanges = before ++ exchange :: after →
      ∀ carried, exchange.call.watermark? = some carried →
        carried = reported ((book.account name).seen ++
          learnt ((book.account name).exchanges ++ before))) :
    book.Explained (Entry.ofExchanges name exchanges) := by
  induction exchanges generalizing book with
  | nil => trivial
  | cons exchange rest inductionHypothesis =>
      refine ⟨⟨begun, ?_⟩, trivial, inductionHypothesis ?_ ?_⟩
      · have first := carries [] exchange rest rfl
        rw [List.append_nil] at first
        exact first
      · change ((book.read (.answered name exchange)).account name).isBegun = true
        rw [account_read_answered]
        exact begun
      · intro before later after split
        have onward := carries (exchange :: before) later after (congrArg _ split)
        rw [List.append_cons] at onward
        change ∀ carried, _ → carried = reported
          (((book.read (.answered name exchange)).account name).seen ++
            learnt (((book.read (.answered name exchange)).account name).exchanges ++ before))
        rw [account_read_answered]
        exact onward

end Book

end GraphClient
