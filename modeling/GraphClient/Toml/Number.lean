import GraphClient.Toml.Text

namespace GraphClient.Toml

/-- Digits that follow a digit, each perhaps after an underscore, and the rest of the text. -/
def moreDigits (isDigit : Char → Bool) : List Char → List Char × List Char
  | '_' :: digit :: rest =>
    if isDigit digit then
      let (digits, rest) := moreDigits isDigit rest
      (digit :: digits, rest)
    else ([], '_' :: digit :: rest)
  | digit :: rest =>
    if isDigit digit then
      let (digits, rest) := moreDigits isDigit rest
      (digit :: digits, rest)
    else ([], digit :: rest)
  | [] => ([], [])

/-- Digits grouped by single underscores, of which there must be one. -/
def digits (isDigit : Char → Bool) : Reader (List Char)
  | [] => none
  | first :: rest =>
    if isDigit first then
      let (digits, rest) := moreDigits isDigit rest
      some (first :: digits, rest)
    else none

/-- The sign at the front of a number: whether it is negative, and the rest of the text. -/
def sign : List Char → Bool × List Char
  | '-' :: rest => (true, rest)
  | '+' :: rest => (false, rest)
  | text => (false, text)

/-- The digits of a decimal whole part. A zero at its front stands alone. -/
def wholePart : Reader (List Char)
  | '0' :: rest => some (['0'], rest)
  | text => digits Char.isDigit text

def fractionPart : Reader (List Char)
  | '.' :: rest => digits Char.isDigit rest
  | _ => none

/-- The exponent after a number. -/
def exponentPart : Reader Int
  | 'e' :: rest | 'E' :: rest =>
    let (negative, rest) := sign rest
    (digits Char.isDigit rest).map fun (read, rest) =>
      let value : Int := ofDigits 10 read
      (if negative then -value else value, rest)
  | _ => none

/-- Half a unit above the largest double: what reaches it is rounded up to infinity. -/
def doubleBound : Nat :=
  Nat.pow 2 1024 - Nat.pow 2 970

/-- The digits times a power of ten are too large for a double. -/
def exceedsDouble (digits : List Char) (exponent : Int) : Bool :=
  let significant := digits.dropWhile (· == '0')
  let magnitude : Int := significant.length + exponent
  if significant.isEmpty || magnitude < 300 then false
  else if 320 < magnitude then true
  else
    let value := ofDigits 10 significant
    if 0 ≤ exponent then doubleBound ≤ value * Nat.pow 10 exponent.toNat
    else doubleBound * Nat.pow 10 exponent.natAbs ≤ value

/-- A number with a fraction, an exponent or both. -/
def float : Reader Node := fun text => do
  let (negative, unsigned) := sign text
  let (whole, afterWhole) ← wholePart unsigned
  let (fraction, afterFraction) :=
    match fractionPart afterWhole with
    | some (fraction, rest) => (fraction, rest)
    | none => ([], afterWhole)
  let (exponent, rest) :=
    match exponentPart afterFraction with
    | some (exponent, rest) => (exponent, rest)
    | none => (0, afterFraction)
  if rest.length = afterWhole.length then none
  else if !negative && exceedsDouble (whole ++ fraction) (exponent - fraction.length) then none
  else some (.float (text.take (text.length - rest.length)), rest)

/-- The numbers that have names. -/
def namedFloat : Reader Node := fun text =>
  match (sign text).2 with
  | 'i' :: 'n' :: 'f' :: rest => some (.float (text.take (text.length - rest.length)), rest)
  | 'n' :: 'a' :: 'n' :: rest => some (.float (text.take (text.length - rest.length)), rest)
  | _ => none

/-- The least size that 64 bits with a sign hold below zero only. -/
def integerBound : Nat :=
  Nat.pow 2 63

/-- A whole number of 64 bits, from its sign and its size. -/
def ofInteger (negative : Bool) (size : Nat) : Option Node :=
  if negative then if size ≤ integerBound then some (.integer (-size)) else none
  else if size < integerBound then some (.integer size)
  else none

/-- A whole number in another base has no sign. -/
def integer : Reader Node
  | '0' :: 'x' :: rest => based 16 Text.isHexDigit rest
  | '0' :: 'o' :: rest => based 8 (fun digit => '0' ≤ digit && digit ≤ '7') rest
  | '0' :: 'b' :: rest => based 2 (fun digit => digit == '0' || digit == '1') rest
  | text => do
    let (negative, unsigned) := sign text
    let (digits, rest) ← wholePart unsigned
    let node ← ofInteger negative (ofDigits 10 digits)
    return (node, rest)
where
  based (base : Nat) (isDigit : Char → Bool) : Reader Node := fun text => do
    let (digits, rest) ← digits isDigit text
    let node ← ofInteger false (ofDigits base digits)
    return (node, rest)

end GraphClient.Toml
