import GraphClient.Message

namespace GraphClient

inductive FolderEntry where
  | file (content : Bytes)
  | directory
deriving DecidableEq, Inhabited

/-- The names that lead from the folder to a place without a detour. -/
abbrev Place :=
  List String

/-- What a directory holds, as a value: files and directories by the place where they stand. -/
structure Folder where
  entries : List (Place × FolderEntry) := []
deriving DecidableEq, Inhabited

namespace Folder

/-- The most bytes that the name of an entry may have. -/
def nameLimit : Nat :=
  255

/-- The most bytes that a path may have: 4095 in all, of which the path of the folder takes sixteen. -/
def pathLimit : Nat :=
  4079

/-- The folder itself, and the directories around it, of which nothing else is known. -/
def isAround (place : Place) : Bool :=
  place.all fun name => name == ".." || name == "/"

def find? (folder : Folder) (place : Place) : Option FolderEntry :=
  if isAround place then some .directory
  else (folder.entries.find? fun entry => entry.1 == place).map Prod.snd

/-- Follows one part of a path. The empty part and the single dot stay where they are, but they too
must be in a directory; so a path may name something that is not there, but nothing below it. -/
def enter? (folder : Folder) (place : Place) (part : String) : Option Place :=
  if folder.find? place ≠ some .directory ∨ nameLimit < part.utf8ByteSize then none
  else if part = "" ∨ part = "." then some place
  else if part = ".." ∧ !isAround place then some place.dropLast
  else some (place ++ [part])

/-- Where a path starts: at the folder, or at the root of all directories. -/
def origin (path : String) : Place :=
  if path.toList.head? = some '/' then ["/"] else []

/-- A path can be followed if it is not too long and holds no zero character. -/
def isPath (path : String) : Bool :=
  path.utf8ByteSize ≤ pathLimit && !path.toList.contains '\x00'

/-- The place that a path names, whether or not there is something. -/
def locate? (folder : Folder) (path : String) : Option Place :=
  if isPath path then (path.splitOn "/").foldlM folder.enter? (origin path) else none

def exists? (folder : Folder) (path : String) : Bool :=
  ((folder.locate? path).bind folder.find?).isSome

/-- The content of a file; a directory has none. -/
def read? (folder : Folder) (path : String) : Option Bytes :=
  match (folder.locate? path).bind folder.find? with
  | some (.file content) => some content
  | some .directory | none => none

/-- Puts an entry in the place of any other. -/
def put (folder : Folder) (place : Place) (entry : FolderEntry) : Folder :=
  ⟨folder.entries.filter (·.1 ≠ place) ++ [(place, entry)]⟩

/-- Writes a file anew, unless a directory is in its place. -/
def write? (folder : Folder) (path : String) (content : Bytes) : Option Folder :=
  (folder.locate? path).bind fun place =>
    if folder.find? place = some .directory then none else some (folder.put place (.file content))

/-- Follows the parts of a path and makes the directories that are missing, up to where a file is in
the way. -/
def makeDirectories (folder : Folder) (place : Place) : List String → Folder
  | [] => folder
  | part :: rest =>
    match folder.enter? place part with
    | none => folder
    | some next =>
      match folder.find? next with
      | none => (folder.put next .directory).makeDirectories next rest
      | some _ => folder.makeDirectories next rest

/-- Makes a directory and those that it lies in. -/
def makeDirectory (folder : Folder) (path : String) : Folder :=
  if isPath path then folder.makeDirectories (origin path) (path.splitOn "/") else folder

end Folder

end GraphClient
