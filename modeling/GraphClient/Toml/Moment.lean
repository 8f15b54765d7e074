import GraphClient.Toml.Text

namespace GraphClient.Toml

/-- A number of a fixed count of digits within bounds. -/
def twoDigits (least most : Nat) : Reader Nat
  | tens :: ones :: rest =>
    let value := ofDigits 10 [tens, ones]
    if tens.isDigit && ones.isDigit && least ≤ value && value ≤ most then some (value, rest)
    else none
  | _ => none

def year : Reader Nat
  | first :: second :: third :: fourth :: rest =>
    if [first, second, third, fourth].all Char.isDigit then
      some (ofDigits 10 [first, second, third, fourth], rest)
    else none
  | _ => none

def exactly (character : Char) : Reader Unit
  | [] => none
  | first :: rest => if first = character then some ((), rest) else none

def isLeapYear (year : Nat) : Bool :=
  year % 4 == 0 && (year % 100 != 0 || year % 400 == 0)

def daysOfMonth (year month : Nat) : Nat :=
  if month = 2 then if isLeapYear year then 29 else 28
  else if month ∈ [4, 6, 9, 11] then 30
  else 31

/-- A date, whose day must be one that the month has. -/
def date : Reader Unit := fun text => do
  let (year, rest) ← year text
  let ((), rest) ← exactly '-' rest
  let (month, rest) ← twoDigits 1 12 rest
  let ((), rest) ← exactly '-' rest
  let (_, rest) ← twoDigits 1 (daysOfMonth year month) rest
  return ((), rest)

/-- The fraction of a second, which may be missing. -/
def secondFraction (text : List Char) : List Char :=
  match text with
  | '.' :: digit :: rest => if digit.isDigit then rest.dropWhile Char.isDigit else text
  | _ => text

/-- A time of day; a minute may hold a leap second. -/
def timeOfDay : Reader Unit := fun text => do
  let (_, rest) ← twoDigits 0 23 text
  let ((), rest) ← exactly ':' rest
  let (_, rest) ← twoDigits 0 59 rest
  let ((), rest) ← exactly ':' rest
  let (_, rest) ← twoDigits 0 60 rest
  return ((), secondFraction rest)

def offset : Reader Unit
  | 'Z' :: rest | 'z' :: rest => some ((), rest)
  | '+' :: rest | '-' :: rest => do
    let (_, rest) ← twoDigits 0 23 rest
    let ((), rest) ← exactly ':' rest
    let (_, rest) ← twoDigits 0 59 rest
    return ((), rest)
  | _ => none

/-- What follows a date: a time after a letter or a blank, and its offset, all of which may be
missing. -/
def timeAfterDate (text : List Char) : List Char :=
  match text with
  | 'T' :: rest | 't' :: rest | ' ' :: rest =>
    match timeOfDay rest with
    | none => text
    | some ((), after) => ((offset after).map Prod.snd).getD after
  | _ => text

/-- A date, a time of day, or both with or without an offset. -/
def moment : Reader Node := fun text =>
  match date text with
  | some ((), rest) =>
    let rest := timeAfterDate rest
    some (.moment (text.take (text.length - rest.length)), rest)
  | none =>
    (timeOfDay text).map fun ((), rest) => (.moment (text.take (text.length - rest.length)), rest)

end GraphClient.Toml
