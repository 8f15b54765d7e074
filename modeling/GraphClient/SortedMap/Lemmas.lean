import GraphClient.SortedMap

namespace GraphClient

variable {Key Value : Type} [Ord Key] [Std.TransOrd Key] [Std.LawfulEqOrd Key]

namespace Entries

/-- After an insertion the search finds the combined value under the key, and the old values
elsewhere. -/
theorem find?_insertWith (combine : Value → Value → Value) (key sought : Key) (value : Value)
    (entries : List (Key × Value)) :
    find? sought (insertWith combine key value entries) =
      if compare sought key = .eq then
        some (((find? key entries).map (combine · value)).getD value)
      else find? sought entries := by
  induction entries with
  | nil =>
      cases order : compare sought key <;> simp [find?, insertWith, order]
  | cons head rest inductionHypothesis =>
      rw [insertWith]
      split
      next before =>
        cases order : compare sought key with
        | lt =>
            have first := Std.TransCmp.lt_trans order before
            simp [find?, order, first]
        | eq => simp [find?, order, before]
        | gt => simp [find?, order]
      next same =>
        have equal : key = head.1 := Std.LawfulEqCmp.eq_of_compare same
        subst equal
        cases order : compare sought head.1 with
        | lt => simp [find?, order]
        | eq => simp [find?, order]
        | gt => simp [find?, order]
      next after =>
        cases order : compare sought key with
        | eq =>
            have equal : sought = key := Std.LawfulEqCmp.eq_of_compare order
            subst equal
            simp [find?, after, inductionHypothesis]
        | lt => simp [find?, inductionHypothesis, order]
        | gt => simp [find?, inductionHypothesis, order]

omit [Std.TransOrd Key] [Std.LawfulEqOrd Key] in
theorem find?_eq_none_of_before {key : Key} {entries : List (Key × Value)}
    (before : ∀ entry ∈ entries, compare key entry.1 = .lt) : find? key entries = none := by
  cases entries with
  | nil => rfl
  | cons head rest => simp [find?, before head List.mem_cons_self]

/-- In an ascending list the search finds exactly the pairs that are listed. -/
theorem find?_eq_some_iff {key : Key} {value : Value} {entries : List (Key × Value)}
    (ascending : Ascending entries) :
    find? key entries = some value ↔ (key, value) ∈ entries := by
  induction entries with
  | nil => simp [find?]
  | cons head rest inductionHypothesis =>
      have ⟨above, restAscending⟩ := List.pairwise_cons.1 ascending
      rw [List.mem_cons, ← inductionHypothesis restAscending, find?]
      split
      next before =>
        have absent : find? key rest = none :=
          find?_eq_none_of_before fun entry member =>
            Std.TransCmp.lt_trans before (above entry member)
        simp only [absent, reduceCtorEq, or_false, false_iff]
        intro same
        simp [← same] at before
      next same =>
        have equal : key = head.1 := Std.LawfulEqCmp.eq_of_compare same
        have absent : find? head.1 rest = none := find?_eq_none_of_before above
        simp [absent, equal, Prod.ext_iff, eq_comm]
      next after =>
        refine ⟨.inr, fun held => held.resolve_left fun same => ?_⟩
        simp [← same] at after

/-- Ascending lists in which every search comes to the same are equal. -/
theorem eq_of_find?_eq {first second : List (Key × Value)} (firstAscending : Ascending first)
    (secondAscending : Ascending second) (same : ∀ key, find? key first = find? key second) :
    first = second := by
  have members : ∀ entry, entry ∈ first ↔ entry ∈ second := fun (key, value) => by
    rw [← find?_eq_some_iff firstAscending, ← find?_eq_some_iff secondAscending, same]
  clear same
  induction first generalizing second with
  | nil =>
      cases second with
      | nil => rfl
      | cons head rest => exact absurd ((members head).2 List.mem_cons_self) List.not_mem_nil
  | cons head rest inductionHypothesis =>
      have ⟨above, restAscending⟩ := List.pairwise_cons.1 firstAscending
      cases second with
      | nil => exact absurd ((members head).1 List.mem_cons_self) List.not_mem_nil
      | cons other others =>
          have ⟨otherAbove, othersAscending⟩ := List.pairwise_cons.1 secondAscending
          have heads : head = other := by
            rcases List.mem_cons.1 ((members head).1 List.mem_cons_self) with same | later
            · exact same
            rcases List.mem_cons.1 ((members other).2 List.mem_cons_self) with same | earlier
            · exact same.symm
            have cycle := Std.TransCmp.lt_trans (otherAbove head later) (above other earlier)
            simp at cycle
          subst heads
          congr 1
          refine inductionHypothesis restAscending othersAscending fun entry => ?_
          constructor <;> intro member
          · rcases List.mem_cons.1 ((members entry).1 (List.mem_cons_of_mem _ member)) with same | held
            · have cycle := above entry member
              simp [same] at cycle
            · exact held
          · rcases List.mem_cons.1 ((members entry).2 (List.mem_cons_of_mem _ member)) with same | held
            · have cycle := otherAbove entry member
              simp [same] at cycle
            · exact held

end Entries

namespace SortedMap

/-- A map has one written form: maps that answer alike on every key are equal. -/
@[ext] theorem ext_get? {first second : SortedMap Key Value}
    (same : ∀ key, first.get? key = second.get? key) : first = second := by
  have entries := Entries.eq_of_find?_eq first.ascending second.ascending same
  cases first
  cases second
  simpa using entries

theorem get?_eq_some_iff {map : SortedMap Key Value} {key : Key} {value : Value} :
    map.get? key = some value ↔ (key, value) ∈ map.entries :=
  Entries.find?_eq_some_iff map.ascending

omit [Std.TransOrd Key] [Std.LawfulEqOrd Key] in
@[simp] theorem get?_empty (key : Key) : (empty : SortedMap Key Value).get? key = none :=
  rfl

/-- An insertion combines the value under its key and leaves the others. -/
theorem get?_insertWith [DecidableEq Key] (combine : Value → Value → Value)
    (map : SortedMap Key Value) (key sought : Key) (value : Value) :
    (map.insertWith combine key value).get? sought =
      if sought = key then some (((map.get? key).map (combine · value)).getD value)
      else map.get? sought := by
  rw [get?, insertWith, Entries.find?_insertWith]
  simp only [Std.LawfulEqCmp.compare_eq_iff_eq]
  rfl

/-- A value that is entered stands under its key, and the others stay. -/
theorem get?_insert [DecidableEq Key] (map : SortedMap Key Value) (key sought : Key)
    (value : Value) :
    (map.insert key value).get? sought = if sought = key then some value else map.get? sought := by
  rw [insert, get?_insertWith]
  cases map.get? key <;> rfl

/-- A key that is removed has no value, and the others keep theirs. -/
theorem get?_erase [DecidableEq Key] (map : SortedMap Key Value) (key sought : Key) :
    (map.erase key).get? sought = if sought = key then none else map.get? sought := by
  apply Option.ext
  intro value
  rw [get?_eq_some_iff]
  by_cases same : sought = key
  · simp [erase, same]
  · simp [erase, same, get?_eq_some_iff]

/-- What was inserted first under a key is gone once another value is inserted under it. -/
theorem insert_insert [DecidableEq Key] (map : SortedMap Key Value) (key : Key)
    (first second : Value) : (map.insert key first).insert key second = map.insert key second := by
  ext sought : 1
  simp only [get?_insert]
  split <;> rfl

theorem erase_insert [DecidableEq Key] (map : SortedMap Key Value) (key : Key) (value : Value) :
    (map.insert key value).erase key = map.erase key := by
  ext sought : 1
  simp only [get?_erase, get?_insert]
  split <;> rfl

/-- Maps are merged key by key. -/
theorem get?_mergeWith (combine : Value → Value → Value) (first second : SortedMap Key Value)
    (key : Key) :
    (first.mergeWith combine second).get? key =
      (first.get? key).merge combine (second.get? key) := by
  obtain ⟨entries, ascending⟩ := second
  rw [mergeWith]
  simp only [get?]
  induction entries generalizing first with
  | nil => simp [Entries.find?]
  | cons head rest inductionHypothesis =>
      have ⟨above, restAscending⟩ := List.pairwise_cons.1 ascending
      rw [List.foldl_cons, inductionHypothesis _ restAscending, insertWith,
        Entries.find?_insertWith, Entries.find?]
      cases order : compare key head.1 with
      | lt =>
          have absent : Entries.find? key rest = none :=
            Entries.find?_eq_none_of_before fun entry member =>
              Std.TransCmp.lt_trans order (above entry member)
          simp [absent]
      | eq =>
          have equal : key = head.1 := Std.LawfulEqCmp.eq_of_compare order
          have absent : Entries.find? head.1 rest = none :=
            Entries.find?_eq_none_of_before above
          subst equal
          rw [absent]
          cases Entries.find? head.1 first.entries <;> simp
      | gt => simp

/-- The pairs of a map, in any order, make that map. -/
theorem ofList_of_perm {map : SortedMap Key Value} {pairs : List (Key × Value)}
    (order : pairs.Perm map.entries) : ofList pairs = map := by
  classical
  have commutes : ∀ first ∈ pairs, ∀ second ∈ pairs, ∀ built : SortedMap Key Value,
      (built.insert first.1 first.2).insert second.1 second.2 =
        (built.insert second.1 second.2).insert first.1 first.2 := by
    intro first firstMember second secondMember built
    have firstValue := get?_eq_some_iff.2 (order.mem_iff.1 firstMember)
    have secondValue := get?_eq_some_iff.2 (order.mem_iff.1 secondMember)
    ext sought : 1
    simp only [get?_insert]
    by_cases isFirst : sought = first.1
    · by_cases isSecond : sought = second.1
      · rw [if_pos isSecond, if_pos isFirst, ← secondValue, ← firstValue, ← isFirst, ← isSecond]
      · simp only [if_neg isSecond, if_pos isFirst]
    · simp only [if_neg isFirst]
  have sorted : ofList pairs = ofList map.entries := order.foldl_eq' commutes empty
  have merged : ofList map.entries = empty.mergeWith (fun _ new => new) map := rfl
  rw [sorted, merged]
  ext sought : 1
  rw [get?_mergeWith, get?_empty, Option.merge_none_left]

theorem mem_keys_iff {map : SortedMap Key Value} {key : Key} :
    key ∈ map.keys ↔ (map.get? key).isSome := by
  simp [keys, Option.isSome_iff_exists, get?_eq_some_iff]

omit [Std.TransOrd Key] [Std.LawfulEqOrd Key] in
theorem keys_ascending (map : SortedMap Key Value) :
    map.keys.Pairwise fun first second => compare first second = .lt :=
  List.pairwise_map.2 map.ascending

end SortedMap

namespace SortedSet

variable {Element : Type} [Ord Element] [Std.TransOrd Element] [Std.LawfulEqOrd Element]

/-- A set with further elements holds the old ones and these. -/
theorem mem_toList_insertMany (set : SortedSet Element) (elements : List Element)
    {element : Element} :
    element ∈ toList (insertMany set elements) ↔ element ∈ toList set ∨ element ∈ elements := by
  classical
  induction elements generalizing set with
  | nil => simp [insertMany]
  | cons head rest inductionHypothesis =>
      have tail := inductionHypothesis (insert set head)
      rw [insertMany] at tail ⊢
      rw [List.foldl_cons, tail]
      simp only [toList, SortedMap.mem_keys_iff, insert, SortedMap.get?_insert, List.mem_cons]
      by_cases same : element = head <;> simp [same]

/-- Sets of the same elements are equal. -/
theorem ext_toList {first second : SortedSet Element}
    (same : ∀ element, element ∈ toList first ↔ element ∈ toList second) : first = second := by
  refine SortedMap.ext_get? fun element => ?_
  have listed := same element
  simp only [toList, SortedMap.mem_keys_iff] at listed
  cases known : SortedMap.get? first element <;> cases other : SortedMap.get? second element <;>
    simp_all

omit [Std.TransOrd Element] [Std.LawfulEqOrd Element] in
/-- A set is listed in strictly ascending order, so it names no element twice. -/
theorem toList_ascending (set : SortedSet Element) :
    (toList set).Pairwise fun first second => compare first second = .lt :=
  SortedMap.keys_ascending set

end SortedSet

end GraphClient
