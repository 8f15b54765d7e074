import GraphClient.Json
import GraphClient.Text

namespace GraphClient.Json

def isBlank (character : Char) : Bool :=
  character == ' ' || character == '\t' || character == '\n' || character == '\r'

def isWordCharacter (character : Char) : Bool :=
  character.isAlphanum || character == '+' || character == '-' || character == '.'

/-- The characters that stand for themselves or for a control after a backslash. -/
def shortEscapes : List Char :=
  ['"', '\\', '/', 'b', 'f', 'n', 'r', 't']

/-- The tokens of a single character. -/
def punctuation? : Char → Option Token
  | '[' => some .openBracket
  | ']' => some .closeBracket
  | '\x7b' => some .openBrace
  | '\x7d' => some .closeBrace
  | ':' => some .colon
  | ',' => some .comma
  | _ => none

/-- What the scan is inside of, with the characters read of it, the latest first. -/
inductive Scan where
  | between
  | word (read : List Char)
  | string (read : List Char)
  | escape (read : List Char)
  | hexadecimal (missing : Nat) (read : List Char)
deriving DecidableEq

namespace Scan

/-- A character between tokens. -/
def start (character : Char) : Option (List Token × Scan) :=
  if isBlank character then some ([], between)
  else if character = '"' then some ([], string [])
  else if isWordCharacter character then some ([], word [character])
  else (punctuation? character).map fun token => ([token], between)

/-- The tokens that a character completes, and what the scan is inside of after it. -/
def step : Scan → Char → Option (List Token × Scan)
  | between, character => start character
  | word read, character =>
    if isWordCharacter character then some ([], word (character :: read))
    else (start character).map fun (tokens, scan) => (.word read.reverse :: tokens, scan)
  | string read, character =>
    if character = '"' then some ([.string read.reverse], between)
    else if character = '\\' then some ([], escape (character :: read))
    else if character.toNat < 32 then none
    else some ([], string (character :: read))
  | escape read, character =>
    if character = 'u' then some ([], hexadecimal 4 (character :: read))
    else if character ∈ shortEscapes then some ([], string (character :: read))
    else none
  | hexadecimal missing read, character =>
    if Text.isHexDigit character then
      some ([], if missing ≤ 1 then string (character :: read)
        else hexadecimal (missing - 1) (character :: read))
    else none

/-- The tokens that the end of the text completes. -/
def finish : Scan → Option (List Token)
  | between => some []
  | word read => some [.word read.reverse]
  | string _ | escape _ | hexadecimal _ _ => none

/-- The tokens of the characters, scanned on from a given place: a word ends at the first character
that cannot continue it, and a string at its closing quote. -/
def tokens? (scan : Scan) : List Char → Option (List Token)
  | [] => scan.finish
  | character :: rest =>
    match scan.step character with
    | none => none
    | some (tokens, next) => (next.tokens? rest).map (tokens ++ ·)

end Scan

end GraphClient.Json
