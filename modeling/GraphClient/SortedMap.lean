namespace GraphClient

variable {Key Value : Type} [Ord Key]

namespace Entries

/-- The keys of a list of pairs ascend strictly. -/
def Ascending (entries : List (Key × Value)) : Prop :=
  entries.Pairwise fun first second => compare first.1 second.1 = .lt

instance (entries : List (Key × Value)) : Decidable (Ascending entries) :=
  inferInstanceAs (Decidable (entries.Pairwise _))

/-- The search stops as soon as the keys have passed the one that is sought. -/
def find? (key : Key) : List (Key × Value) → Option Value
  | [] => none
  | entry :: rest =>
    match compare key entry.1 with
    | .lt => none
    | .eq => some entry.2
    | .gt => find? key rest

/-- A new key is put in its place; a value under an old key is combined with the new one. -/
def insertWith (combine : Value → Value → Value) (key : Key) (value : Value) :
    List (Key × Value) → List (Key × Value)
  | [] => [(key, value)]
  | entry :: rest =>
    match compare key entry.1 with
    | .lt => (key, value) :: entry :: rest
    | .eq => (entry.1, combine entry.2 value) :: rest
    | .gt => entry :: insertWith combine key value rest

/-- The keys after an insertion are the old ones and the new one. -/
theorem key_mem_insertWith (combine : Value → Value → Value) (key : Key) (value : Value)
    (entries : List (Key × Value)) {entry : Key × Value}
    (member : entry ∈ insertWith combine key value entries) :
    entry.1 = key ∨ ∃ old ∈ entries, old.1 = entry.1 := by
  induction entries with
  | nil =>
      simp only [insertWith, List.mem_singleton] at member
      exact .inl (by rw [member])
  | cons head rest inductionHypothesis =>
      rw [insertWith] at member
      split at member
      · rcases List.mem_cons.1 member with same | old
        · exact .inl (by rw [same])
        · exact .inr ⟨entry, old, rfl⟩
      · rcases List.mem_cons.1 member with same | old
        · exact .inr ⟨head, List.mem_cons_self, by rw [same]⟩
        · exact .inr ⟨entry, List.mem_cons_of_mem _ old, rfl⟩
      · rcases List.mem_cons.1 member with same | later
        · exact .inr ⟨head, List.mem_cons_self, by rw [same]⟩
        · rcases inductionHypothesis later with same | ⟨old, oldMember, same⟩
          · exact .inl same
          · exact .inr ⟨old, List.mem_cons_of_mem _ oldMember, same⟩

/-- An insertion keeps the keys in strictly ascending order. -/
theorem insertWith_ascending [Std.TransOrd Key] [Std.LawfulEqOrd Key]
    (combine : Value → Value → Value) (key : Key) (value : Value)
    {entries : List (Key × Value)} (ascending : Ascending entries) :
    Ascending (insertWith combine key value entries) := by
  induction entries with
  | nil => exact List.pairwise_singleton _ _
  | cons head rest inductionHypothesis =>
      have ⟨above, restAscending⟩ := List.pairwise_cons.1 ascending
      rw [insertWith]
      split
      next before =>
        refine List.pairwise_cons.2 ⟨fun entry member => ?_, ascending⟩
        rcases List.mem_cons.1 member with same | later
        · rw [same]
          exact before
        · exact Std.TransCmp.lt_trans before (above entry later)
      next => exact List.pairwise_cons.2 ⟨fun entry member => above entry member, restAscending⟩
      next after =>
        refine List.pairwise_cons.2 ⟨fun entry member => ?_, inductionHypothesis restAscending⟩
        rcases key_mem_insertWith combine key value rest member with same | ⟨old, later, same⟩
        · rw [same]
          exact Std.OrientedCmp.gt_iff_lt.1 after
        · rw [← same]
          exact above old later

end Entries

/-- A finite map whose pairs are listed by ascending key. -/
structure SortedMap (Key Value : Type) [Ord Key] where
  entries : List (Key × Value)
  ascending : Entries.Ascending entries

namespace SortedMap

instance [DecidableEq Key] [DecidableEq Value] : DecidableEq (SortedMap Key Value) :=
  fun first second => decidable_of_iff (first.entries = second.entries) <| by
    cases first
    cases second
    simp

def empty : SortedMap Key Value :=
  ⟨[], List.Pairwise.nil⟩

instance : Inhabited (SortedMap Key Value) :=
  ⟨empty⟩

def size (map : SortedMap Key Value) : Nat :=
  map.entries.length

def isEmpty (map : SortedMap Key Value) : Bool :=
  map.entries.isEmpty

/-- The keys in ascending order. -/
def keys (map : SortedMap Key Value) : List Key :=
  map.entries.map Prod.fst

/-- The value under a key, the view of a map that its laws speak of. -/
def get? (map : SortedMap Key Value) (key : Key) : Option Value :=
  Entries.find? key map.entries

/-- Removes a key, if it is there. -/
def erase (map : SortedMap Key Value) (key : Key) : SortedMap Key Value :=
  ⟨map.entries.filter fun entry => compare entry.1 key != .eq, map.ascending.filter _⟩

variable [Std.TransOrd Key] [Std.LawfulEqOrd Key]

/-- Combines a value with the one under its key, or enters it as it is. -/
def insertWith (combine : Value → Value → Value) (map : SortedMap Key Value) (key : Key)
    (value : Value) : SortedMap Key Value :=
  ⟨Entries.insertWith combine key value map.entries,
    Entries.insertWith_ascending combine key value map.ascending⟩

/-- Enters a value in place of any other under its key. -/
def insert (map : SortedMap Key Value) (key : Key) (value : Value) : SortedMap Key Value :=
  map.insertWith (fun _ new => new) key value

/-- Of pairs with one key the last stays. -/
def ofList (pairs : List (Key × Value)) : SortedMap Key Value :=
  pairs.foldl (fun map pair => map.insert pair.1 pair.2) empty

/-- Combines the values of two maps key by key; a key of one map keeps its value. -/
def mergeWith (combine : Value → Value → Value) (first second : SortedMap Key Value) :
    SortedMap Key Value :=
  second.entries.foldl (fun map entry => map.insertWith combine entry.1 entry.2) first

end SortedMap

/-- A finite set, listed in ascending order. -/
abbrev SortedSet (Element : Type) [Ord Element] :=
  SortedMap Element Unit

namespace SortedSet

variable {Element : Type} [Ord Element]

/-- The elements in ascending order. -/
def toList (set : SortedSet Element) : List Element :=
  SortedMap.keys set

variable [Std.TransOrd Element] [Std.LawfulEqOrd Element]

def insert (set : SortedSet Element) (element : Element) : SortedSet Element :=
  SortedMap.insert set element ()

def insertMany (set : SortedSet Element) (elements : List Element) : SortedSet Element :=
  elements.foldl insert set

def ofList (elements : List Element) : SortedSet Element :=
  insertMany SortedMap.empty elements

end SortedSet

end GraphClient
