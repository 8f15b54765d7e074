import GraphClient.Watermark.Lemmas
import Mathlib.Order.BoundedOrder.Lattice

namespace GraphClient

/-- The larger of two versions is one of them and bounds both. -/
instance : Std.LawfulOrderMax Version :=
  .of_max_le_iff
    (fun first second bound => by
      change (if first ≤ second then second else first) ≤ bound ↔ _
      by_cases below : first ≤ second
      · rw [if_pos below]
        exact ⟨fun bounded => ⟨Std.le_trans below bounded, bounded⟩, And.right⟩
      · rw [if_neg below]
        exact ⟨fun bounded => ⟨bounded, Std.le_trans (Std.le_of_not_ge below) bounded⟩, And.left⟩)
    (fun first second => by
      change (if first ≤ second then second else first) = first ∨
        (if first ≤ second then second else first) = second
      by_cases below : first ≤ second
      · exact .inr (if_pos below)
      · exact .inl (if_neg below))

instance : Std.Commutative (max : Version → Version → Version) where
  comm first second := by
    apply Std.le_antisymm
    · exact Std.max_le_iff.2 ⟨Std.right_le_max, Std.left_le_max⟩
    · exact Std.max_le_iff.2 ⟨Std.right_le_max, Std.left_le_max⟩

namespace Watermark

instance : SemilatticeSup Watermark :=
  letI : Max Watermark := ⟨merge⟩
  SemilatticeSup.mk'
    (fun first second => ext_versions fun group => by
      change (first.merge second).get? group = (second.merge first).get? group
      rw [get?_merge, get?_merge]
      exact Std.Commutative.comm _ _)
    (fun first second third => ext_versions fun group => by
      change ((first.merge second).merge third).get? group =
        (first.merge (second.merge third)).get? group
      rw [get?_merge, get?_merge, get?_merge, get?_merge]
      exact Std.Associative.assoc _ _ _)
    (fun watermark => ext_versions fun group => by
      change (watermark.merge watermark).get? group = watermark.get? group
      rw [get?_merge]
      exact Std.IdempotentOp.idempotent _)

/-- The merge of two watermarks is their least upper bound. -/
theorem merge_eq_sup (first second : Watermark) : first.merge second = first ⊔ second :=
  rfl

theorem get?_sup (first second : Watermark) (group : GroupId) :
    (first ⊔ second).get? group = (first.get? group).merge max (second.get? group) :=
  get?_merge first second group

/-- The order of the semilattice is domination. -/
theorem le_iff_dominates {first second : Watermark} :
    first ≤ second ↔ second.dominates first = true := by
  rw [dominates_iff, ← sup_eq_right]
  constructor
  · intro same group version known
    have merged := get?_sup first second group
    rw [same, known] at merged
    cases own : second.get? group with
    | none =>
        rw [own] at merged
        simp at merged
    | some held =>
        rw [own, Option.merge_some_some, Option.some.injEq] at merged
        exact ⟨held, rfl, merged ▸ Std.left_le_max⟩
  · intro bounded
    refine ext_versions fun group => ?_
    rw [get?_sup]
    cases known : first.get? group with
    | none => simp
    | some version =>
        obtain ⟨own, held, below⟩ := bounded group version known
        rw [held, Option.merge_some_some, Option.some.injEq]
        exact Std.le_antisymm (Std.max_le_iff.2 ⟨below, Std.le_refl own⟩) Std.right_le_max

instance : OrderBot Watermark where
  bot := empty
  bot_le watermark := le_iff_dominates.2 (dominates_iff.2 fun group version known => by
    simp at known)

theorem empty_eq_bot : empty = (⊥ : Watermark) :=
  rfl

/-- The highest version of a group that any of the watermarks holds. -/
def highest (watermarks : List Watermark) (group : GroupId) : Option Version :=
  (watermarks.filterMap fun watermark => watermark.get? group).max?

/-- Merging one watermark after the other joins them all. -/
theorem foldl_merge (start : Watermark) (watermarks : List Watermark) :
    watermarks.foldl merge start = start ⊔ join watermarks := by
  induction watermarks generalizing start with
  | nil => exact (sup_bot_eq start).symm
  | cons watermark rest inductionHypothesis =>
      rw [join, List.foldl_cons, List.foldl_cons, inductionHypothesis, inductionHypothesis,
        merge_eq_sup, merge_eq_sup, empty_eq_bot, bot_sup_eq, sup_assoc]

@[simp] theorem join_nil : join [] = ⊥ :=
  rfl

@[simp] theorem join_cons (watermark : Watermark) (rest : List Watermark) :
    join (watermark :: rest) = watermark ⊔ join rest := by
  rw [join, List.foldl_cons, foldl_merge, merge_eq_sup, empty_eq_bot, bot_sup_eq]

@[simp] theorem join_append (first second : List Watermark) :
    join (first ++ second) = join first ⊔ join second := by
  induction first with
  | nil => simp
  | cons watermark rest inductionHypothesis =>
      rw [List.cons_append, join_cons, join_cons, inductionHypothesis, sup_assoc]

/-- A list is joined above each of its watermarks. -/
theorem le_join {watermark : Watermark} {watermarks : List Watermark}
    (member : watermark ∈ watermarks) : watermark ≤ join watermarks := by
  obtain ⟨before, after, rfl⟩ := List.append_of_mem member
  rw [join_append, join_cons]
  exact le_sup_of_le_right le_sup_left

/-- The join of a list is its least upper bound. -/
theorem join_le_iff {watermarks : List Watermark} {bound : Watermark} :
    join watermarks ≤ bound ↔ ∀ watermark ∈ watermarks, watermark ≤ bound := by
  induction watermarks with
  | nil => simp
  | cons watermark rest inductionHypothesis => simp [inductionHypothesis]

/-- The join of a list holds, group by group, the highest version of the list. -/
theorem get?_join (watermarks : List Watermark) (group : GroupId) :
    (join watermarks).get? group = highest watermarks group := by
  induction watermarks with
  | nil => rfl
  | cons watermark rest inductionHypothesis =>
      rw [join_cons, get?_sup, inductionHypothesis, highest, highest, List.filterMap_cons]
      cases watermark.get? group with
      | none => simp
      | some version =>
          rw [List.max?_cons]
          cases (rest.filterMap fun watermark => watermark.get? group).max? <;> rfl

end Watermark

end GraphClient
