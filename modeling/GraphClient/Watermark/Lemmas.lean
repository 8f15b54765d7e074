import GraphClient.SortedMap.Lemmas
import GraphClient.Watermark

namespace GraphClient

namespace Watermark

/-- Two watermarks that have seen the same version of every group are equal. -/
theorem ext_versions {first second : Watermark}
    (same : ∀ group, first.get? group = second.get? group) : first = second :=
  congrArg mk (SortedMap.ext_get? same)

@[simp] theorem get?_nothing (group : GroupId) : empty.get? group = none :=
  rfl

/-- Raising a group takes the higher of its old version and the new one, and leaves the other
groups. -/
theorem get?_raise (watermark : Watermark) (group sought : GroupId) (version : Version) :
    (watermark.raise group version).get? sought =
      if sought = group then some (((watermark.get? group).map (max · version)).getD version)
      else watermark.get? sought :=
  SortedMap.get?_insertWith max watermark.versions group sought version

theorem get?_merge (first second : Watermark) (group : GroupId) :
    (first.merge second).get? group = (first.get? group).merge max (second.get? group) :=
  SortedMap.get?_mergeWith max first.versions second.versions group

/-- Only the empty watermark has no group. -/
theorem isEmpty_iff {watermark : Watermark} : watermark.isEmpty = true ↔ watermark = empty := by
  obtain ⟨⟨entries, ascending⟩⟩ := watermark
  refine List.isEmpty_iff.trans ⟨fun nothing => ?_, fun same => ?_⟩
  · change entries = [] at nothing
    subst nothing
    rfl
  · exact congrArg (fun watermark => watermark.versions.entries) same

/-- A watermark dominates another one exactly when no group of the other has been seen higher. -/
theorem dominates_iff {first second : Watermark} :
    first.dominates second = true ↔
      ∀ group version, second.get? group = some version →
        ∃ own, first.get? group = some own ∧ version ≤ own := by
  have listed (group : GroupId) (version : Version) :
      (group, version) ∈ second.toList ↔ second.get? group = some version :=
    SortedMap.get?_eq_some_iff.symm
  simp only [dominates, List.all_eq_true, Prod.forall, listed]
  refine forall_congr' fun group => forall_congr' fun version => imp_congr_right fun _ => ?_
  cases first.get? group <;> simp

end Watermark

namespace SharedWatermark

/-- Folding into the shared watermark is a merge, also where the merge is left out. -/
theorem read_foldIn (shared : SharedWatermark) (update : Watermark) :
    (shared.foldIn update).read = shared.read.merge update := by
  by_cases nothing : update.isEmpty
  · rw [Watermark.isEmpty_iff.1 nothing]
    refine Watermark.ext_versions fun group => ?_
    rw [Watermark.get?_merge, Watermark.get?_nothing]
    simp [foldIn, read, Watermark.isEmpty_iff.2]
  · simp [foldIn, nothing, read]

end SharedWatermark

end GraphClient
