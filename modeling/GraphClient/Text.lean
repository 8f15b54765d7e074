import GraphClient.Text.Unprintable

namespace GraphClient.Text

/-- Separates the items by a comma and a blank. -/
def commas (items : List String) : String :=
  String.intercalate ", " items

/-- A named structure with its fields on one line. -/
def record (name : String) (fields : List (String × String)) : String :=
  name ++ " \x7b " ++ commas (fields.map fun field => field.1 ++ ": " ++ field.2) ++ " \x7d"

/-- A set, or a map whose items are pairs. -/
def braced (items : List String) : String :=
  "\x7b" ++ commas items ++ "\x7d"

def bracketed (items : List String) : String :=
  "[" ++ commas items ++ "]"

def truth (value : Bool) : String :=
  if value then "true" else "false"

def option : Option String → String
  | none => "None"
  | some text => "Some(" ++ text ++ ")"

/-- The escape of a code point in hexadecimal digits without leading zeros. -/
def codePointEscape (character : Char) : List Char :=
  "\\u\x7b".toList ++ Nat.toDigits 16 character.toNat ++ ['\x7d']

/-- Quotes and backslashes are escaped, and a character that leaves no mark of its own is written by
its code point. -/
def quotedCharacter (character : Char) : List Char :=
  match character with
  | '\x00' => ['\\', '0']
  | '\t' => ['\\', 't']
  | '\n' => ['\\', 'n']
  | '\r' => ['\\', 'r']
  | '\\' => ['\\', '\\']
  | '"' => ['\\', '"']
  | _ => if isUnprintable character then codePointEscape character else [character]

/-- The text between double quotes, on one line. -/
def quoted (text : String) : String :=
  String.ofList ('"' :: text.toList.flatMap quotedCharacter ++ ['"'])

def isHexDigit (character : Char) : Bool :=
  character.isDigit || ('a' ≤ character && character ≤ 'f') || ('A' ≤ character && character ≤ 'F')

/-- The value of a digit, whose letters may be of either case. -/
def hexDigitValue (character : Char) : Nat :=
  if character.isDigit then character.toNat - '0'.toNat
  else if 'a' ≤ character then character.toNat - 'a'.toNat + 10
  else character.toNat - 'A'.toNat + 10

/-- Some part of the text is the word: the first place where it could start decides, or a later one. -/
def occurs (word : List Char) : List Char → Bool
  | [] => word.isEmpty
  | character :: rest => word.isPrefixOf (character :: rest) || occurs word rest

/-- The test holds exactly if the text is something, the word, and something more. -/
theorem occurs_iff {word text : List Char} : occurs word text = true ↔ word <:+: text := by
  induction text with
  | nil => simp [occurs, List.isEmpty_iff]
  | cons character rest ih =>
    simp only [occurs, Bool.or_eq_true, List.isPrefixOf_iff_prefix, ih, List.infix_cons_iff]

end GraphClient.Text
