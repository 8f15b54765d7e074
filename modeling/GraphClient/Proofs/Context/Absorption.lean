import GraphClient.Proofs.Transaction.Conduct
import GraphClient.Proofs.Watermark.Construction

namespace GraphClient

namespace TransactionContext

/-- Absorbs a reply in place, one field after the other, as far as no error stops it. -/
def absorbing (reply : WireContext) : EStateM StartMismatch TransactionContext Unit := do
  let context ← get
  MonadExcept.ofExcept (context.checkStart reply.startTimestamp)
  if context.startTimestamp = 0 then
    modify fun context => { context with startTimestamp := reply.startTimestamp }
  modify fun context => { context with watermark := context.watermark.merge reply.watermark }
  modify fun context => { context with keys := SortedSet.insertMany context.keys reply.keys }

/-- What is in place of the context after a reply, whether it was absorbed or rejected. -/
def afterReply (context : TransactionContext) (reply : WireContext) : TransactionContext :=
  match (absorbing reply).run context with
  | .ok () after | .error _ after => after

/-- What is in place of the context after replies, also those that follow a rejected one. -/
def afterReplies (context : TransactionContext) (replies : List WireContext) : TransactionContext :=
  replies.foldl afterReply context

/-- The start timestamps of a context and of replies. -/
def starts (context : TransactionContext) (replies : List WireContext) : List UInt64 :=
  context.startTimestamp :: replies.map fun reply => reply.startTimestamp

/-- All start timestamps that are assigned are the same. -/
def Agrees (context : TransactionContext) (replies : List WireContext) : Prop :=
  ∀ first ∈ context.starts replies, ∀ second ∈ context.starts replies,
    first ≠ 0 → second ≠ 0 → first = second

/-- The context holds what another one and the replies hold together. -/
structure Gathers (context : TransactionContext) (replies : List WireContext)
    (gathered : TransactionContext) : Prop where
  assigned : ∀ start ∈ context.starts replies, start ≠ 0 → gathered.startTimestamp = start
  unassigned : (∀ start ∈ context.starts replies, start = 0) → gathered.startTimestamp = 0
  watermark : gathered.watermark =
    context.watermark ⊔ Watermark.join (replies.map fun reply => reply.watermark)
  keys : ∀ key, key ∈ SortedSet.toList gathered.keys ↔
    key ∈ SortedSet.toList context.keys ∨ ∃ reply ∈ replies, key ∈ reply.keys
  aborted : gathered.aborted = context.aborted

variable {context : TransactionContext} {reply : WireContext} {replies rest : List WireContext}

/-- A reply whose start timestamp agrees is taken over. -/
theorem absorbing_of_compatible
    (compatible : Compatible context.startTimestamp reply.startTimestamp) :
    (absorbing reply).run context = .ok () (context.extend reply) := by
  have checked := checkStart_of_compatible compatible
  by_cases unassigned : context.startTimestamp = 0
  · simp [absorbing, checked, unassigned, extend, MonadExcept.ofExcept]
  · simp [absorbing, checked, unassigned, extend, MonadExcept.ofExcept]

/-- A reply that names another start timestamp is rejected, and leaves the context as it was. -/
theorem absorbing_of_not_compatible
    (clashing : ¬ Compatible context.startTimestamp reply.startTimestamp) :
    (absorbing reply).run context =
      .error ⟨context.startTimestamp, reply.startTimestamp⟩ context := by
  have refused := checkStart_of_not_compatible clashing
  simp [absorbing, refused, MonadExcept.ofExcept]

/-- Absorbing in place comes to the same, and an error leaves the context as it was. -/
theorem absorbing_run (context : TransactionContext) (reply : WireContext) :
    (absorbing reply).run context =
      match context.absorb reply with
      | .ok after => .ok () after
      | .error mismatch => .error mismatch context := by
  by_cases compatible : Compatible context.startTimestamp reply.startTimestamp
  · rw [absorb_of_compatible compatible, absorbing_of_compatible compatible]
  · rw [absorb_of_not_compatible compatible, absorbing_of_not_compatible compatible]

theorem afterReplies_cons (compatible : Compatible context.startTimestamp reply.startTimestamp) :
    context.afterReplies (reply :: rest) = (context.extend reply).afterReplies rest := by
  rw [afterReplies, List.foldl_cons, afterReply, absorbing_of_compatible compatible]
  rfl

/-- Absorbing a reply loses no start timestamp that is assigned, and adds none. -/
theorem mem_starts_extend (compatible : Compatible context.startTimestamp reply.startTimestamp)
    {start : UInt64} (assigned : start ≠ 0) :
    start ∈ (context.extend reply).starts rest ↔ start ∈ context.starts (reply :: rest) := by
  have held : start = (context.extend reply).startTimestamp ↔
      start = context.startTimestamp ∨ start = reply.startTimestamp := by
    rw [extend]
    split
    next unassigned =>
      rw [unassigned]
      exact (or_iff_right assigned).symm
    next fixed =>
      refine ⟨.inl, fun either => either.elim id fun named => ?_⟩
      rcases compatible with unassigned | unnamed | same
      · exact absurd unassigned fixed
      · exact absurd (named.trans unnamed) assigned
      · exact named.trans same
  rw [starts, starts, List.mem_cons, held, List.map_cons, List.mem_cons, List.mem_cons, or_assoc]

/-- Replies agree exactly if the first one agrees with the context and the others with what it makes
of it. -/
theorem agrees_cons : context.Agrees (reply :: rest) ↔
    Compatible context.startTimestamp reply.startTimestamp ∧ (context.extend reply).Agrees rest := by
  constructor
  · intro agrees
    have compatible : Compatible context.startTimestamp reply.startTimestamp := by
      by_cases unassigned : context.startTimestamp = 0
      · exact .inl unassigned
      by_cases unnamed : reply.startTimestamp = 0
      · exact .inr (.inl unnamed)
      · exact .inr (.inr (agrees reply.startTimestamp (by simp [starts]) context.startTimestamp
          (by simp [starts]) unnamed unassigned))
    refine ⟨compatible, fun first member second other assigned fixed => ?_⟩
    exact agrees first ((mem_starts_extend compatible assigned).1 member) second
      ((mem_starts_extend compatible fixed).1 other) assigned fixed
  · rintro ⟨compatible, agrees⟩ first member second other assigned fixed
    exact agrees first ((mem_starts_extend compatible assigned).2 member) second
      ((mem_starts_extend compatible fixed).2 other) assigned fixed

theorem Gathers.nil (context : TransactionContext) : context.Gathers [] context where
  assigned start member _ := by
    rw [starts, List.map_nil, List.mem_singleton] at member
    exact member.symm
  unassigned zero := zero context.startTimestamp List.mem_cons_self
  watermark := (sup_bot_eq _).symm
  keys key := by simp
  aborted := rfl

/-- What gathers the rest after a reply has been absorbed gathers the reply too. -/
theorem Gathers.cons {gathered : TransactionContext}
    (compatible : Compatible context.startTimestamp reply.startTimestamp)
    (gathers : (context.extend reply).Gathers rest gathered) :
    context.Gathers (reply :: rest) gathered where
  assigned start member nonzero :=
    gathers.assigned start ((mem_starts_extend compatible nonzero).2 member) nonzero
  unassigned zero := gathers.unassigned fun start member => by
    by_contra nonzero
    exact nonzero (zero start ((mem_starts_extend compatible nonzero).1 member))
  watermark := by
    rw [gathers.watermark, List.map_cons, Watermark.join_cons, ← sup_assoc]
    rfl
  keys key := by
    rw [gathers.keys, extend, SortedSet.mem_toList_insertMany]
    simp [or_assoc]
  aborted := gathers.aborted

/-- The context and the members of the list determine what gathers them. -/
theorem Gathers.unique {order : List WireContext} {first second : TransactionContext}
    (same : ∀ reply, reply ∈ order ↔ reply ∈ replies) (early : context.Gathers replies first)
    (late : context.Gathers order second) : second = first := by
  have members (start : UInt64) : start ∈ context.starts order ↔ start ∈ context.starts replies := by
    simp [starts, same]
  have starts : second.startTimestamp = first.startTimestamp := by
    by_cases zero : ∀ start ∈ context.starts replies, start = 0
    · rw [early.unassigned zero]
      exact late.unassigned fun start member => zero start ((members start).1 member)
    · push Not at zero
      obtain ⟨start, member, assigned⟩ := zero
      rw [early.assigned start member assigned]
      exact late.assigned start ((members start).2 member) assigned
  have watermarks : second.watermark = first.watermark := by
    rw [early.watermark, late.watermark]
    congr 1
    apply Watermark.join_eq_of_mem_iff
    intro watermark _
    simp only [List.mem_map, same]
  have keys : second.keys = first.keys := SortedSet.ext_toList fun key => by
    rw [early.keys, late.keys]
    simp only [same]
  have aborted : second.aborted = first.aborted := early.aborted ▸ late.aborted
  cases first
  cases second
  simp_all

/-- Replies that agree are absorbed one and all. -/
theorem foldlM_absorb_of_agrees (agrees : context.Agrees replies) :
    replies.foldlM absorb context = .ok (context.afterReplies replies) ∧
      context.Gathers replies (context.afterReplies replies) := by
  induction replies generalizing context with
  | nil => exact ⟨rfl, .nil context⟩
  | cons reply rest inductionHypothesis =>
      obtain ⟨compatible, onward⟩ := agrees_cons.1 agrees
      obtain ⟨absorbed, gathers⟩ := inductionHypothesis onward
      rw [List.foldlM_cons, absorb_of_compatible compatible, afterReplies_cons compatible]
      exact ⟨absorbed, gathers.cons compatible⟩

/-- Among replies that disagree there is one that is rejected when its turn comes. -/
theorem exists_rejected (disagrees : ¬ context.Agrees replies) :
    ∃ earlier reply later mismatch, replies = earlier ++ reply :: later ∧
      (context.afterReplies earlier).absorb reply = .error mismatch := by
  induction replies generalizing context with
  | nil =>
      refine absurd (fun first member second other _ _ => ?_) disagrees
      rw [starts, List.map_nil, List.mem_singleton] at member other
      exact member.trans other.symm
  | cons reply rest inductionHypothesis =>
      by_cases compatible : Compatible context.startTimestamp reply.startTimestamp
      · have onward : ¬ (context.extend reply).Agrees rest := fun agrees =>
          disagrees (agrees_cons.2 ⟨compatible, agrees⟩)
        obtain ⟨earlier, rejected, later, mismatch, rfl, refused⟩ := inductionHypothesis onward
        refine ⟨reply :: earlier, rejected, later, mismatch, rfl, ?_⟩
        rw [afterReplies_cons compatible]
        exact refused
      · exact ⟨[], reply, rest, _, rfl, absorb_of_not_compatible compatible⟩

/-- A context has already absorbed what it would send itself. -/
theorem absorb_toWire (context : TransactionContext) :
    context.absorb context.toWire = .ok context := by
  have compatible : Compatible context.startTimestamp context.toWire.startTimestamp :=
    .inr (.inr rfl)
  have keys : SortedSet.insertMany context.keys (SortedSet.toList context.keys) = context.keys :=
    SortedSet.ext_toList fun key => by rw [SortedSet.mem_toList_insertMany, or_self]
  rw [absorb_of_compatible compatible, extend]
  simp only [toWire, ite_self, Watermark.merge_eq_sup, sup_idem, keys]

/-- A fresh context takes over all of another one except that it was marked as aborted. -/
theorem absorb_toWire_of_fresh (context : TransactionContext) :
    ({} : TransactionContext).absorb context.toWire = .ok { context with aborted := false } := by
  have compatible : Compatible ({} : TransactionContext).startTimestamp
      context.toWire.startTimestamp := .inl rfl
  have keys : SortedSet.insertMany SortedMap.empty (SortedSet.toList context.keys) = context.keys :=
    SortedSet.ext_toList fun key => by
      rw [SortedSet.mem_toList_insertMany]
      exact or_iff_right List.not_mem_nil
  rw [absorb_of_compatible compatible, extend]
  simp only [toWire, if_true, Watermark.merge_eq_sup, Watermark.empty_eq_bot, bot_sup_eq, keys]

/-- Replies that agree with each other and with the context are all absorbed, in any order and however
often they are repeated, and what has then been gathered is always the same. Among replies that do not
agree, one is rejected in every order, and a rejected reply leaves the context as it was. What a
context sends of itself is nothing new to it, and all of it to a fresh context. -/
theorem absorption_ignores_order (context : TransactionContext) (replies : List WireContext) :
    (context.Agrees replies → ∃ gathered, context.Gathers replies gathered ∧
        ∀ order : List WireContext, (∀ reply, reply ∈ order ↔ reply ∈ replies) →
          order.foldlM absorb context = .ok gathered ∧ context.afterReplies order = gathered) ∧
      (¬ context.Agrees replies →
        ∀ order : List WireContext, (∀ reply, reply ∈ order ↔ reply ∈ replies) →
          (∃ earlier reply later mismatch, order = earlier ++ reply :: later ∧
            (context.afterReplies earlier).absorb reply = .error mismatch) ∧
          ∀ earlier reply later mismatch, order = earlier ++ reply :: later →
            (context.afterReplies earlier).absorb reply = .error mismatch →
            (absorbing reply).run (context.afterReplies earlier) =
              .error mismatch (context.afterReplies earlier)) ∧
      context.absorb context.toWire = .ok context ∧
      ({} : TransactionContext).absorb context.toWire = .ok { context with aborted := false } := by
  have agrees_iff {order : List WireContext} (same : ∀ reply, reply ∈ order ↔ reply ∈ replies) :
      context.Agrees order ↔ context.Agrees replies := by
    simp [Agrees, starts, same]
  refine ⟨fun agrees => ?_, fun disagrees order same => ⟨?_, ?_⟩, absorb_toWire context,
    absorb_toWire_of_fresh context⟩
  · have gathers := (foldlM_absorb_of_agrees agrees).2
    refine ⟨context.afterReplies replies, gathers, fun order same => ?_⟩
    obtain ⟨absorbed, others⟩ := foldlM_absorb_of_agrees ((agrees_iff same).2 agrees)
    have equal := Gathers.unique same gathers others
    exact ⟨absorbed.trans (congrArg Except.ok equal), equal⟩
  · exact exists_rejected fun agrees => disagrees ((agrees_iff same).1 agrees)
  · intro earlier reply later mismatch _ refused
    rw [absorbing_run, refused]

/-- Of two replies that clash, the one that comes first is absorbed. -/
example :
    [({ startTimestamp := 7 } : WireContext), { startTimestamp := 8 }].foldlM absorb {} =
        .error ⟨7, 8⟩ ∧
      [({ startTimestamp := 8 } : WireContext), { startTimestamp := 7 }].foldlM absorb {} =
        .error ⟨8, 7⟩ :=
  ⟨rfl, rfl⟩

end TransactionContext

end GraphClient
