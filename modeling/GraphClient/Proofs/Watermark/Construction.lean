import GraphClient.Proofs.Watermark.Lattice

namespace GraphClient

namespace Watermark

/-- The watermark that has seen one version of one group. -/
def single (group : GroupId) (version : Version) : Watermark :=
  ⟨⟨[(group, version)], List.pairwise_singleton _ _⟩⟩

theorem get?_single (group sought : GroupId) (version : Version) :
    (single group version).get? sought = if sought = group then some version else none := by
  have raised := get?_raise empty group sought version
  rw [get?_nothing, get?_nothing] at raised
  exact raised

/-- Raising a group joins one version to the watermark. -/
theorem raise_eq_sup (watermark : Watermark) (group : GroupId) (version : Version) :
    watermark.raise group version = watermark ⊔ single group version := by
  refine ext_versions fun sought => ?_
  rw [get?_raise, get?_sup, get?_single]
  by_cases same : sought = group
  · rw [if_pos same, if_pos same, same]
    cases watermark.get? group <;> rfl
  · rw [if_neg same, if_neg same, Option.merge_none_right]

/-- Raising one group after the other joins all their versions. -/
theorem foldl_raise (start : Watermark) (pairs : List (GroupId × Version)) :
    pairs.foldl (fun watermark pair => watermark.raise pair.1 pair.2) start =
      start ⊔ join (pairs.map fun pair => single pair.1 pair.2) := by
  induction pairs generalizing start with
  | nil => exact (sup_bot_eq start).symm
  | cons pair rest inductionHypothesis =>
      rw [List.foldl_cons, inductionHypothesis, raise_eq_sup, List.map_cons, join_cons, sup_assoc]

/-- A list of pairs gives the join of its versions. -/
theorem ofList_eq_join (pairs : List (GroupId × Version)) :
    ofList pairs = join (pairs.map fun pair => single pair.1 pair.2) := by
  rw [ofList, foldl_raise, empty_eq_bot, bot_sup_eq]

/-- The join of a list depends on nothing but the watermarks in it that have seen a group. -/
theorem join_eq_of_mem_iff {first second : List Watermark}
    (same : ∀ watermark, watermark ≠ empty → (watermark ∈ first ↔ watermark ∈ second)) :
    join first = join second := by
  have below {some others : List Watermark}
      (among : ∀ watermark, watermark ≠ empty → watermark ∈ some → watermark ∈ others) :
      join some ≤ join others := by
    rw [join_le_iff]
    intro watermark member
    by_cases nothing : watermark = empty
    · rw [nothing, empty_eq_bot]
      exact bot_le
    · exact le_join (among watermark nothing member)
  apply le_antisymm
  · exact below fun watermark seen => (same watermark seen).1
  · exact below fun watermark seen => (same watermark seen).2

end Watermark

/-- Updates of the shared watermark are joined to what it holds. -/
theorem SharedWatermark.read_foldl_foldIn (shared : SharedWatermark) (updates : List Watermark) :
    (updates.foldl foldIn shared).read = shared.read ⊔ Watermark.join updates := by
  induction updates generalizing shared with
  | nil => exact (sup_bot_eq _).symm
  | cons update rest inductionHypothesis =>
      rw [List.foldl_cons, inductionHypothesis, read_foldIn, Watermark.merge_eq_sup,
        Watermark.join_cons, sup_assoc]

namespace Watermark

/-- A group of version zero has been seen, so a watermark without the group does not dominate it. -/
theorem dominates_single_iff {watermark : Watermark} {group : GroupId} {version : Version} :
    watermark.dominates (single group version) = true ↔
      ∃ own, watermark.get? group = some own ∧ version ≤ own := by
  rw [dominates_iff]
  constructor
  · intro bounded
    exact bounded group version (by rw [get?_single, if_pos rfl])
  · intro bounded sought listed known
    rw [get?_single] at known
    split at known
    next same =>
      cases known
      rw [same]
      exact bounded
    next => cases known

/-- Merging is the join of the order of domination, version by version. All that is built by raising,
by collecting pairs and by folding updates in is such a join, whatever the order and however often
something is repeated. -/
theorem merge_is_join_of_domination (first second third : Watermark) :
    (∀ group, (first.merge second).get? group =
        match first.get? group, second.get? group with
        | some own, some other => some (max own other)
        | some own, none => some own
        | none, known => known) ∧
      (first.merge second = second.merge first ∧
        (first.merge second).merge third = first.merge (second.merge third) ∧
        first.merge first = first ∧ first.merge empty = first ∧ empty.merge first = first) ∧
      (first.dominates first = true ∧
        (first.dominates second = true → second.dominates third = true →
          first.dominates third = true) ∧
        (first.dominates second = true → second.dominates first = true → first = second)) ∧
      (first.dominates second = true ↔ first.merge second = first) ∧
      ((first.merge second).dominates first = true ∧ (first.merge second).dominates second = true ∧
        (third.dominates first = true → third.dominates second = true →
          third.dominates (first.merge second) = true)) ∧
      (∀ group version, first.raise group version = first.merge (single group version) ∧
        (first.dominates (single group version) = true ↔
          ∃ own, first.get? group = some own ∧ version ≤ own)) ∧
      (∀ pairs order : List (GroupId × Version), (∀ pair, pair ∈ order ↔ pair ∈ pairs) →
        ofList order = join (pairs.map fun pair => single pair.1 pair.2)) ∧
      ∀ (shared : SharedWatermark) (updates order : List Watermark),
        (∀ update, update ≠ empty → (update ∈ order ↔ update ∈ updates)) →
        (order.foldl SharedWatermark.foldIn shared).read = shared.read.merge (join updates) := by
  simp only [← le_iff_dominates, merge_eq_sup, empty_eq_bot]
  refine ⟨?_, ⟨sup_comm _ _, sup_assoc _ _ _, sup_idem _, sup_bot_eq _, bot_sup_eq _⟩,
    ⟨le_refl _, fun above below => le_trans below above, fun above below => le_antisymm below above⟩,
    sup_eq_left.symm, ⟨le_sup_left, le_sup_right, sup_le⟩, ?_, ?_, ?_⟩
  · intro group
    rw [get?_sup]
    cases first.get? group <;> cases second.get? group <;> rfl
  · intro group version
    exact ⟨raise_eq_sup _ _ _, le_iff_dominates.trans dominates_single_iff⟩
  · intro pairs order same
    rw [ofList_eq_join]
    apply join_eq_of_mem_iff
    intro watermark _
    simp only [List.mem_map, same]
  · intro shared updates order same
    rw [SharedWatermark.read_foldl_foldIn, join_eq_of_mem_iff same]

/-- Repetitions and the order of pairs leave no trace, and version zero is a version. -/
example : ofList [(7, 3), (1, 0), (7, 18446744073709551615), (1, 0)] =
    ofList [(1, 0), (7, 18446744073709551615)] := by
  decide

end Watermark

end GraphClient
