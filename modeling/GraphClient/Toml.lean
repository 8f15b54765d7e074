namespace GraphClient.Toml

/-- How a table came about, which decides what may still be put into it: a header opens a table
once, a dotted key extends only tables that dotted keys have made, and a table written in one line
is closed. -/
inductive TableOrigin where
  /-- Opened by a header of its own, or the document itself. -/
  | header
  /-- Made on the way to a longer header. -/
  | implied
  /-- Made on the way to the last part of a dotted key. -/
  | dotted
  /-- Written between braces. -/
  | closed
deriving DecidableEq, Inhabited

/-- The nodes of a document as a tree. Numbers with a fraction, dates and times are kept as they are
written. -/
inductive Node where
  | text (value : String)
  | integer (value : Int)
  | float (written : List Char)
  | boolean (value : Bool)
  | moment (written : List Char)
  | array (items : List Node)
  | table (origin : TableOrigin) (entries : List (String × Node))
  /-- The elements that headers in double brackets have opened, in order. -/
  | tables (elements : List (List (String × Node)))
deriving Inhabited

abbrev Entries :=
  List (String × Node)

/-- Takes a value off the front of a text, and returns it with the rest of the text. -/
abbrev Reader (Value : Type) :=
  List Char → Option (Value × List Char)

namespace Entries

def find? (entries : Entries) (name : String) : Option Node :=
  (List.find? (fun entry => entry.1 == name) entries).map Prod.snd

/-- Changes the node under a name, which may be missing, and keeps its place. -/
def change (name : String) (update : Option Node → Option Node) : Entries → Option Entries
  | [] => (update none).map fun node => [(name, node)]
  | entry :: rest =>
    if entry.1 = name then (update (some entry.2)).map fun node => (name, node) :: rest
    else (change name update rest).map (entry :: ·)

/-- Changes the last of several elements. -/
def changeLast (update : Entries → Option Entries) : List Entries → Option (List Entries)
  | [] => none
  | [last] => (update last).map ([·])
  | first :: rest => (changeLast update rest).map (first :: ·)

/-- Changes the table at the end of a header's path; tables that are missing on the way are implied by
the header, and of the elements of an array the last one is meant. -/
def changeAt (path : List String) (update : Entries → Option Entries) (entries : Entries) :
    Option Entries :=
  match path with
  | [] => update entries
  | name :: rest =>
    change name (fun
      | none => (changeAt rest update []).map (.table .implied)
      | some (.table origin inner) =>
        if origin = .closed then none else (changeAt rest update inner).map (.table origin)
      | some (.tables elements) => (changeLast (changeAt rest update) elements).map .tables
      | some _ => none) entries

/-- Opens the table of a header, which must be new or implied by a longer header. -/
def openTable : List String → Entries → Option Entries
  | [] => fun _ => none
  | [name] =>
    change name fun
      | none => some (.table .header [])
      | some (.table .implied inner) => some (.table .header inner)
      | some _ => none
  | name :: rest => changeAt [name] (openTable rest)

/-- Opens a further element of an array of tables, which may be new. -/
def openElement : List String → Entries → Option Entries
  | [] => fun _ => none
  | [name] =>
    change name fun
      | none => some (.tables [[]])
      | some (.tables elements) => some (.tables (elements ++ [[]]))
      | some _ => none
  | name :: rest => changeAt [name] (openElement rest)

/-- Puts a value under a dotted key. The last part of the key goes into a table that may be added to:
the one the key starts from, or one that dotted keys have made. -/
def insert (path : List String) (node : Node) (mayAdd : Bool) (entries : Entries) :
    Option Entries :=
  match path with
  | [] => none
  | [name] =>
    if mayAdd then
      change name (fun
        | none => some node
        | some _ => none) entries
    else none
  | name :: rest =>
    change name (fun
      | none => (insert rest node true []).map (.table .dotted)
      | some (.table .dotted inner) => (insert rest node true inner).map (.table .dotted)
      | some (.table .implied inner) => (insert rest node false inner).map (.table .implied)
      | some (.tables elements) => (changeLast (insert rest node false) elements).map .tables
      | some _ => none) entries

end Entries

end GraphClient.Toml
