import GraphClient.Json.Scan

namespace GraphClient.Json

def hexDigitText (value : Nat) : Char :=
  Nat.digitChar value

/-- Controls without a short escape are written with four hexadecimal digits. -/
def escape (character : Char) : List Char :=
  if character = '"' then ['\\', '"']
  else if character = '\\' then ['\\', '\\']
  else if character = '\x08' then ['\\', 'b']
  else if character = '\t' then ['\\', 't']
  else if character = '\n' then ['\\', 'n']
  else if character = '\x0c' then ['\\', 'f']
  else if character = '\r' then ['\\', 'r']
  else if character.toNat < 32 then
    ['\\', 'u', '0', '0', hexDigitText (character.toNat / 16), hexDigitText (character.toNat % 16)]
  else [character]

/-- The text as it stands between quotes: quotes, backslashes and controls are escaped. -/
def written (text : String) : List Char :=
  text.toList.flatMap escape

def shortEscapeValue? : Char → Option Char
  | '"' => some '"'
  | '\\' => some '\\'
  | '/' => some '/'
  | 'b' => some '\x08'
  | 'f' => some '\x0c'
  | 'n' => some '\n'
  | 'r' => some '\r'
  | 't' => some '\t'
  | _ => none

/-- The code points and UTF-16 units of a written string, in order; an escape may name a code point
by its units. -/
def units? : List Char → Option (List Nat)
  | [] => some []
  | '\\' :: 'u' :: first :: second :: third :: fourth :: rest =>
    let unit := [first, second, third, fourth].foldl
      (fun value digit => 16 * value + Text.hexDigitValue digit) 0
    (units? rest).map (unit :: ·)
  | '\\' :: code :: rest =>
    match shortEscapeValue? code with
    | none => none
    | some character => (units? rest).map (character.toNat :: ·)
  | character :: rest => (units? rest).map (character.toNat :: ·)

def isHighSurrogate (unit : Nat) : Bool :=
  0xd800 ≤ unit && unit < 0xdc00

def isLowSurrogate (unit : Nat) : Bool :=
  0xdc00 ≤ unit && unit < 0xe000

/-- Joins the halves of surrogate pairs; a half without the other half makes no text. -/
def joinSurrogates : List Nat → Option (List Char)
  | [] => some []
  | unit :: rest =>
    if isHighSurrogate unit then
      match rest with
      | [] => none
      | low :: others =>
        if isLowSurrogate low then
          (joinSurrogates others).map
            (Char.ofNat (0x10000 + (unit - 0xd800) * 0x400 + (low - 0xdc00)) :: ·)
        else none
    else if isLowSurrogate unit then none
    else (joinSurrogates rest).map (Char.ofNat unit :: ·)

/-- The text of a written string, if it has one. -/
def unwritten? (written : List Char) : Option String :=
  ((units? written).bind joinSurrogates).map String.ofList

end GraphClient.Json
