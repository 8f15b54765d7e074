import GraphClient.SortedMap
import GraphClient.Text

namespace GraphClient

/-- The number of a replica group. -/
abbrev GroupId := UInt32

abbrev Version := UInt64

/-- A watermark holds the highest version that has been seen of each replica group; a group that has
not been seen has none, which is less than version zero. -/
structure Watermark where
  versions : SortedMap GroupId Version
deriving DecidableEq, Inhabited

namespace Watermark

def empty : Watermark :=
  ⟨SortedMap.empty⟩

/-- The highest version seen of a group, the view of a watermark that its laws speak of. -/
def get? (watermark : Watermark) (group : GroupId) : Option Version :=
  watermark.versions.get? group

def size (watermark : Watermark) : Nat :=
  watermark.versions.size

def isEmpty (watermark : Watermark) : Bool :=
  watermark.versions.isEmpty

/-- The groups and their versions by ascending group. -/
def toList (watermark : Watermark) : List (GroupId × Version) :=
  watermark.versions.entries

/-- Lifts a group to a version, and leaves it where it has already been seen higher. -/
def raise (watermark : Watermark) (group : GroupId) (version : Version) : Watermark :=
  ⟨watermark.versions.insertWith max group version⟩

/-- Of several versions of one group the highest stays. -/
def ofList (pairs : List (GroupId × Version)) : Watermark :=
  pairs.foldl (fun watermark pair => watermark.raise pair.1 pair.2) empty

/-- The higher version of each group that either side has seen. -/
def merge (first second : Watermark) : Watermark :=
  ⟨first.versions.mergeWith max second.versions⟩

/-- The merge of all watermarks of a list. -/
def join (watermarks : List Watermark) : Watermark :=
  watermarks.foldl merge empty

/-- Every group of the second watermark is known to the first at its version or a higher one. -/
def dominates (first second : Watermark) : Bool :=
  second.toList.all fun (group, version) =>
    match first.get? group with
    | none => false
    | some own => version ≤ own

def text (watermark : Watermark) : String :=
  let versions := watermark.toList.map fun (group, version) => s!"{group}: {version}"
  Text.record "Watermark" [("versions", Text.braced versions)]

end Watermark

/-- The watermark of a client: the cell that all its transactions fold theirs into, read when a
transaction starts and raised by every reply. -/
structure SharedWatermark where
  value : Watermark
deriving DecidableEq, Inhabited

namespace SharedWatermark

def empty : SharedWatermark :=
  ⟨Watermark.empty⟩

def read (shared : SharedWatermark) : Watermark :=
  shared.value

/-- An update without any group needs no merge. -/
def foldIn (shared : SharedWatermark) (update : Watermark) : SharedWatermark :=
  if update.isEmpty then shared else ⟨shared.value.merge update⟩

end SharedWatermark

end GraphClient
