import GraphClient.Text
import GraphClient.Toml

namespace GraphClient.Toml

def isBlank (character : Char) : Bool :=
  character == ' ' || character == '\t'

/-- Controls other than the tab may stand nowhere in a document. -/
def isAllowed (character : Char) : Bool :=
  character == '\t' || (32 ≤ character.toNat && character.toNat ≠ 127)

def skipBlanks (text : List Char) : List Char :=
  text.dropWhile isBlank

/-- A comment goes on to the end of its line. -/
def skipComment : List Char → List Char
  | '#' :: rest => rest.dropWhile isAllowed
  | text => text

/-- The end of a line, or of the document. -/
def endOfLine : Reader Unit
  | [] => some ((), [])
  | '\n' :: rest => some ((), rest)
  | '\r' :: '\n' :: rest => some ((), rest)
  | _ => none

/-- Blanks and newlines. -/
def skipSpace : List Char → List Char
  | '\r' :: '\n' :: rest => skipSpace rest
  | character :: rest =>
    if isBlank character || character == '\n' then skipSpace rest else character :: rest
  | [] => []

theorem length_skipSpace_le (text : List Char) : (skipSpace text).length ≤ text.length := by
  fun_induction skipSpace text with
  | case1 rest inductionHypothesis => simp only [List.length_cons]; omega
  | case2 character rest _ _ inductionHypothesis => simp only [List.length_cons]; omega
  | case3 => exact Nat.le_refl _
  | case4 => exact Nat.le_refl _

/-- Blanks, newlines and comments, as they may stand between the items of an array. -/
def skipTrivia (inComment : Bool) : List Char → List Char
  | [] => []
  | '\n' :: rest => skipTrivia false rest
  | '\r' :: '\n' :: rest => skipTrivia false rest
  | character :: rest =>
    if inComment then
      if isAllowed character then skipTrivia true rest else character :: rest
    else if isBlank character then skipTrivia false rest
    else if character = '#' then skipTrivia true rest
    else character :: rest

/-- The number that digits of a base spell. -/
def ofDigits (base : Nat) (digits : List Char) : Nat :=
  digits.foldl (fun value digit => base * value + Text.hexDigitValue digit) 0

/-- The character of a code point, if it is one. -/
def ofCodePoint? (digits : List Char) : Option Char :=
  let point := ofDigits 16 digits
  if digits.all Text.isHexDigit ∧ point.isValidChar then some (Char.ofNat point) else none

def escapeValue? : Char → Option Char
  | 'b' => some '\x08'
  | 't' => some '\t'
  | 'n' => some '\n'
  | 'f' => some '\x0c'
  | 'r' => some '\r'
  | '"' => some '"'
  | '\\' => some '\\'
  | _ => none

/-- Puts a character in front of what a reader has read. -/
def prepend (character : Char) (read : Option (List Char × List Char)) :
    Option (List Char × List Char) :=
  read.map fun (characters, rest) => (character :: characters, rest)

/-- What an escape stands for, after its backslash. -/
def escape : Reader Char
  | 'u' :: first :: second :: third :: fourth :: rest =>
    (ofCodePoint? [first, second, third, fourth]).map (·, rest)
  | 'U' :: first :: second :: third :: fourth :: fifth :: sixth :: seventh :: eighth :: rest =>
    (ofCodePoint? [first, second, third, fourth, fifth, sixth, seventh, eighth]).map (·, rest)
  | code :: rest => (escapeValue? code).map (·, rest)
  | [] => none

theorem length_lt_of_escape {text rest : List Char} {character : Char}
    (read : escape text = some (character, rest)) : rest.length < text.length := by
  unfold escape at read
  split at read
  · obtain ⟨_, _, same⟩ := Option.map_eq_some_iff.1 read
    simp only [Prod.mk.injEq] at same
    simp only [List.length_cons, ← same.2]
    omega
  · obtain ⟨_, _, same⟩ := Option.map_eq_some_iff.1 read
    simp only [Prod.mk.injEq] at same
    simp only [List.length_cons, ← same.2]
    omega
  · obtain ⟨_, _, same⟩ := Option.map_eq_some_iff.1 read
    simp only [Prod.mk.injEq] at same
    simp only [List.length_cons, ← same.2]
    omega
  · simp at read

/-- A string between double quotes, after its first quote. -/
def basicString : Reader (List Char)
  | [] => none
  | '"' :: rest => some ([], rest)
  | '\\' :: rest =>
    match _read : escape rest with
    | none => none
    | some (character, after) => prepend character (basicString after)
  | character :: rest =>
    if isAllowed character then prepend character (basicString rest) else none
termination_by text => text.length
decreasing_by
  · have := length_lt_of_escape _read
    simp only [List.length_cons]
    omega
  · simp

/-- The end of a line of blanks after a backslash joins the line with what follows the space. -/
def joinedLine? (text : List Char) : Option (List Char) :=
  match skipBlanks text with
  | '\n' :: rest => some (skipSpace rest)
  | '\r' :: '\n' :: rest => some (skipSpace rest)
  | _ => none

theorem length_le_of_joinedLine? {text rest : List Char} (joined : joinedLine? text = some rest) :
    rest.length ≤ text.length := by
  have blanks : (skipBlanks text).length ≤ text.length := (List.dropWhile_suffix _).length_le
  unfold joinedLine? at joined
  split at joined
  next after same =>
    have := length_skipSpace_le after
    rw [same, List.length_cons] at blanks
    simp only [Option.some.injEq] at joined
    subst joined
    omega
  next after same =>
    have := length_skipSpace_le after
    rw [same, List.length_cons, List.length_cons] at blanks
    simp only [Option.some.injEq] at joined
    subst joined
    omega
  next => simp at joined

/-- A string between tripled double quotes, after the first of them. Up to two quotes may stand
right before the last of them. -/
def longBasicString : Reader (List Char)
  | [] => none
  | '"' :: '"' :: '"' :: '"' :: '"' :: rest => some (['"', '"'], rest)
  | '"' :: '"' :: '"' :: '"' :: rest => some (['"'], rest)
  | '"' :: '"' :: '"' :: rest => some ([], rest)
  | '"' :: rest => prepend '"' (longBasicString rest)
  | '\r' :: '\n' :: rest => prepend '\n' (longBasicString rest)
  | '\n' :: rest => prepend '\n' (longBasicString rest)
  | '\\' :: rest =>
    match _joined : joinedLine? rest with
    | some after => longBasicString after
    | none =>
      match _read : escape rest with
      | none => none
      | some (character, after) => prepend character (longBasicString after)
  | character :: rest =>
    if isAllowed character then prepend character (longBasicString rest) else none
termination_by text => text.length
decreasing_by
  · simp
  · simp only [List.length_cons]; omega
  · simp
  · have := length_le_of_joinedLine? _joined
    simp only [List.length_cons]
    omega
  · have := length_lt_of_escape _read
    simp only [List.length_cons]
    omega
  · simp

/-- A string between single quotes, after its first quote. -/
def literalString : Reader (List Char)
  | [] => none
  | '\'' :: rest => some ([], rest)
  | character :: rest =>
    if isAllowed character then prepend character (literalString rest) else none

/-- A string between tripled single quotes, after the first of them. -/
def longLiteralString : Reader (List Char)
  | [] => none
  | '\'' :: '\'' :: '\'' :: '\'' :: '\'' :: rest => some (['\'', '\''], rest)
  | '\'' :: '\'' :: '\'' :: '\'' :: rest => some (['\''], rest)
  | '\'' :: '\'' :: '\'' :: rest => some ([], rest)
  | '\r' :: '\n' :: rest => prepend '\n' (longLiteralString rest)
  | '\n' :: rest => prepend '\n' (longLiteralString rest)
  | character :: rest =>
    if isAllowed character then prepend character (longLiteralString rest) else none

/-- A newline right after the quotes that open a long string is not part of it. -/
def skipNewline : List Char → List Char
  | '\n' :: rest => rest
  | '\r' :: '\n' :: rest => rest
  | text => text

/-- A string in any of its four forms. -/
def string : Reader String
  | '"' :: '"' :: '"' :: rest => (longBasicString (skipNewline rest)).map named
  | '"' :: rest => (basicString rest).map named
  | '\'' :: '\'' :: '\'' :: rest => (longLiteralString (skipNewline rest)).map named
  | '\'' :: rest => (literalString rest).map named
  | _ => none
where
  named (read : List Char × List Char) : String × List Char :=
    (String.ofList read.1, read.2)

def isBare (character : Char) : Bool :=
  character.isAlphanum || character == '_' || character == '-'

/-- One part of a key: bare, or a string on one line. -/
def keyPart : Reader String
  | '"' :: rest => (basicString rest).map string.named
  | '\'' :: rest => (literalString rest).map string.named
  | text =>
    match text.takeWhile isBare with
    | [] => none
    | part => some (String.ofList part, text.dropWhile isBare)

/-- No nesting of arrays and tables, and no key, may go deeper than this. -/
def deepest : Nat :=
  79

/-- The parts of a key, with blanks around each, of which there may be `limit`. -/
def keyParts : Nat → Reader (List String)
  | 0, _ => none
  | limit + 1, text =>
    match keyPart (skipBlanks text) with
    | none => none
    | some (part, after) =>
      match skipBlanks after with
      | '.' :: rest => (keyParts limit rest).map fun (parts, rest) => (part :: parts, rest)
      | rest => some ([part], rest)

def key : Reader (List String) :=
  keyParts deepest

end GraphClient.Toml
