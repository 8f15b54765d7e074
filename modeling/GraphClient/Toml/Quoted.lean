import GraphClient.Toml.Text

namespace GraphClient.Toml

/-- The forms of a string: between double or single quotes, which are tripled to span lines. Escapes
stand between double quotes only. -/
inductive StringForm where
  | basic
  | literal
  | basicLines
  | literalLines
deriving DecidableEq

namespace StringForm

/-- The form holds all characters of the string as they are. -/
def shows (text : List Char) : StringForm → Bool
  | basic => plain && !text.contains '\\' && !text.contains '"' && !text.contains '\n'
  | literal => plain && !text.contains '\'' && !text.contains '\n'
  | basicLines => plain && !text.contains '\\' && !Text.occurs ['"', '"', '"'] text
  | literalLines => plain && !Text.occurs ['\'', '\'', '\''] text
where
  /-- No form shows controls other than the tab and the newline. -/
  plain : Bool :=
    text.all fun character => isAllowed character || character == '\n'

/-- The first form that shows the string, or else one with escapes. -/
def ofText (text : List Char) : StringForm :=
  ([basic, literal, basicLines, literalLines].find? (shows text)).getD
    (if text.contains '\n' then basicLines else basic)

end StringForm

/-- Controls without a short escape are written with four hexadecimal digits. -/
def escaped (character : Char) : List Char :=
  match character with
  | '\x08' => ['\\', 'b']
  | '\t' => ['\\', 't']
  | '\n' => ['\\', 'n']
  | '\x0c' => ['\\', 'f']
  | '\r' => ['\\', 'r']
  | '"' => ['\\', '"']
  | '\\' => ['\\', '\\']
  | _ =>
    if isAllowed character then [character]
    else ['\\', 'u', '0', '0', hexDigit (character.toNat / 16), hexDigit (character.toNat % 16)]
where
  hexDigit (value : Nat) : Char :=
    (Nat.digitChar value).toUpper

/-- Between tripled quotes, newlines stay, and so do two quotes in a row; a third one is escaped. -/
def escapedLines (quotes : Nat) : List Char → List Char
  | [] => []
  | '"' :: rest =>
    if quotes < 2 then '"' :: escapedLines (quotes + 1) rest
    else '\\' :: '"' :: escapedLines 0 rest
  | '\n' :: rest => '\n' :: escapedLines 0 rest
  | character :: rest => escaped character ++ escapedLines 0 rest

/-- A string of several lines begins on a line of its own. -/
def lineBreak (text : List Char) : List Char :=
  if text.contains '\n' then ['\n'] else []

def quotedAs (text : List Char) : StringForm → List Char
  | .basic => '"' :: text.flatMap escaped ++ ['"']
  | .literal => '\'' :: text ++ ['\'']
  | .basicLines => ['"', '"', '"'] ++ lineBreak text ++ escapedLines 0 text ++ ['"', '"', '"']
  | .literalLines => ['\'', '\'', '\''] ++ lineBreak text ++ text ++ ['\'', '\'', '\'']

/-- The string in the first of the four forms that shows it as it is; where no form can show it so,
it is written with escapes. -/
def quoted (text : String) : String :=
  String.ofList (quotedAs text.toList (.ofText text.toList))

end GraphClient.Toml
