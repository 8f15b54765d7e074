namespace GraphClient

/-- A length of time in whole nanoseconds. -/
structure Duration where
  nanoseconds : Nat
deriving DecidableEq, Inhabited

namespace Duration

def zero : Duration :=
  ⟨0⟩

def ofMilliseconds (milliseconds : Nat) : Duration :=
  ⟨milliseconds * 1000000⟩

instance : LT Duration :=
  ⟨fun first second => first.nanoseconds < second.nanoseconds⟩

instance : LE Duration :=
  ⟨fun first second => first.nanoseconds ≤ second.nanoseconds⟩

instance (first second : Duration) : Decidable (first < second) :=
  Nat.decLt _ _

instance (first second : Duration) : Decidable (first ≤ second) :=
  Nat.decLe _ _

def isZero (duration : Duration) : Bool :=
  duration.nanoseconds == 0

/-- A unit of time: its symbol, and the power of ten of nanoseconds that it holds. -/
structure Unit where
  symbol : String
  exponent : Nat

/-- The nanoseconds of one unit. -/
def Unit.size (unit : Unit) : Nat :=
  Nat.pow 10 unit.exponent

/-- The units of the text, the largest first. -/
def units : List Unit :=
  [⟨"s", 9⟩, ⟨"ms", 6⟩, ⟨"µs", 3⟩]

/-- The decimals of a remainder below one unit, without the zeros at their end. -/
def decimals (exponent remainder : Nat) : List Char :=
  let digits := Nat.toDigits 10 remainder
  let padded := List.replicate (exponent - digits.length) '0' ++ digits
  (padded.reverse.dropWhile (· == '0')).reverse

/-- The largest unit that gives at least one whole, with as many decimals as the length needs. -/
def text (duration : Duration) : String :=
  let unit := (units.find? fun unit => unit.size ≤ duration.nanoseconds).getD ⟨"ns", 0⟩
  let whole := Nat.toDigits 10 (duration.nanoseconds / unit.size)
  let fraction :=
    if duration.nanoseconds % unit.size = 0 then []
    else '.' :: decimals unit.exponent (duration.nanoseconds % unit.size)
  String.ofList (whole ++ fraction) ++ unit.symbol

end Duration

end GraphClient
