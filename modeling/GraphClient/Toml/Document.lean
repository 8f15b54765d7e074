/-
Documents of TOML. A document is read into its lines first; then the lines are carried out in order
on the tree.
-/

import GraphClient.Toml.Moment
import GraphClient.Toml.Number

namespace GraphClient.Toml

/-- The items of an array after its bracket; a comma may follow the last one. -/
def arrayItems (item : Reader Node) (text : List Char) : Option (List Node × List Char) :=
  match skipTrivia false text with
  | ']' :: rest => some ([], rest)
  | start =>
    match item start with
    | none => none
    | some (node, after) =>
      match skipTrivia false after with
      | ']' :: rest => some ([node], rest)
      | ',' :: rest =>
        if rest.length < text.length then
          (arrayItems item rest).map fun (nodes, rest) => (node :: nodes, rest)
        else none
      | _ => none
termination_by text.length

/-- A key, an equals sign and a value. -/
def keyValue (value : Reader Node) : Reader (List String × Node) := fun text => do
  let (path, rest) ← key text
  match rest with
  | '=' :: rest =>
    let (node, rest) ← value (skipBlanks rest)
    return ((path, node), rest)
  | _ => none

/-- The pairs of a table between braces; no comma may follow the last one. -/
def tablePairs (value : Reader Node) (text : List Char) :
    Option (List (List String × Node) × List Char) :=
  match keyValue value text with
  | none => none
  | some (pair, after) =>
    match skipBlanks after with
    | '\x7d' :: rest => some ([pair], rest)
    | ',' :: rest =>
      if rest.length < text.length then
        (tablePairs value rest).map fun (pairs, rest) => (pair :: pairs, rest)
      else none
    | _ => none
termination_by text.length

/-- A table between braces on one line. -/
def closedTable (value : Reader Node) : Reader Node := fun text => do
  let (pairs, rest) ←
    match skipBlanks text with
    | '\x7d' :: rest => some ([], rest)
    | _ => tablePairs value text
  let entries ← pairs.foldlM (fun entries pair => Entries.insert pair.1 pair.2 true entries) []
  return (.table .closed entries, rest)

/-- A value that nests arrays and tables no deeper than `depth`. -/
def value (depth : Nat) : Reader Node := fun text =>
  match text, depth with
  | '"' :: _, _ | '\'' :: _, _ => (string text).map fun (read, rest) => (.text read, rest)
  | '[' :: rest, depth + 1 =>
    (arrayItems (value depth) rest).map fun (nodes, rest) => (.array nodes, rest)
  | '\x7b' :: rest, depth + 1 => closedTable (value depth) rest
  | 't' :: 'r' :: 'u' :: 'e' :: rest, _ => some (.boolean true, rest)
  | 'f' :: 'a' :: 'l' :: 's' :: 'e' :: rest, _ => some (.boolean false, rest)
  | _, _ => moment text <|> float text <|> namedFloat text <|> integer text

/-- What one line of a document says. -/
inductive Statement where
  | nothing
  | pair (path : List String) (node : Node)
  | table (path : List String)
  | element (path : List String)

/-- A line without its end. -/
def statement : Reader Statement := fun text =>
  match text with
  | [] | '#' :: _ | '\n' :: _ | '\r' :: _ => some (.nothing, text)
  | '[' :: '[' :: rest =>
    match key rest with
    | some (path, ']' :: ']' :: rest) => some (.element path, rest)
    | _ => none
  | '[' :: rest =>
    match key rest with
    | some (path, ']' :: rest) => some (.table path, rest)
    | _ => none
  | _ => (keyValue (value deepest) text).map fun ((path, node), rest) => (.pair path node, rest)

/-- A statement with the comment and the end of its line. -/
def line : Reader Statement := fun text => do
  let (statement, rest) ← statement (skipBlanks text)
  let ((), rest) ← endOfLine (skipComment (skipBlanks rest))
  return (statement, rest)

def statements? (text : List Char) : Option (List Statement) :=
  match line text with
  | none => none
  | some (statement, rest) =>
    if rest.length < text.length then (statements? rest).map (statement :: ·)
    else if rest.isEmpty then some [statement]
    else none
termination_by text.length

/-- The tree so far, and the path of the header that the next pairs stand under. -/
structure Document where
  entries : Entries := []
  header : List String := []

namespace Document

/-- Carries out a line on the tree, or refuses it where it contradicts an earlier one. -/
def apply (document : Document) : Statement → Option Document
  | .nothing => some document
  | .pair path node =>
    (Entries.changeAt document.header (Entries.insert path node true) document.entries).map
      fun entries => { document with entries }
  | .table path => (Entries.openTable path document.entries).map fun entries => ⟨entries, path⟩
  | .element path => (Entries.openElement path document.entries).map fun entries => ⟨entries, path⟩

end Document

def skipByteOrderMark : List Char → List Char
  | '\ufeff' :: rest => rest
  | text => text

/-- The entries of a document, unless its text is malformed or contradicts itself. -/
def ofText? (text : String) : Option Entries := do
  let statements ← statements? (skipByteOrderMark text.toList)
  let document ← statements.foldlM Document.apply {}
  return document.entries

end GraphClient.Toml
