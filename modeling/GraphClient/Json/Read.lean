import GraphClient.Json.Scan

namespace GraphClient.Json

/-- The digits at the front of a written number, of which there must be one. -/
def afterDigits (written : List Char) : Option (List Char) :=
  match written with
  | [] => none
  | first :: _ => if first.isDigit then some (written.dropWhile Char.isDigit) else none

def afterSign (signs : List Char) : List Char → List Char
  | [] => []
  | first :: rest => if first ∈ signs then rest else first :: rest

/-- What follows the whole part of a number, which has no needless zero at its front. -/
def afterWhole : List Char → Option (List Char)
  | '0' :: rest => some rest
  | written => afterDigits written

def afterFraction : List Char → Option (List Char)
  | '.' :: rest => afterDigits rest
  | written => some written

def afterExponent : List Char → Option (List Char)
  | 'e' :: rest | 'E' :: rest => afterDigits (afterSign ['+', '-'] rest)
  | written => some written

/-- A number has a whole part, and perhaps a sign, a fraction and an exponent. -/
def isNumber (written : List Char) : Bool :=
  (((afterWhole (afterSign ['-'] written)).bind afterFraction).bind afterExponent) == some []

/-- The value of a word: a name that is known, or a number. -/
def ofWord? (written : List Char) : Option Json :=
  if written = "null".toList then some null
  else if written = "true".toList then some (boolean true)
  else if written = "false".toList then some (boolean false)
  else if isNumber written then some (number written)
  else none

/-- An open array or object: what it holds so far, the latest first. An object also holds the key
whose value is being read. -/
inductive Frame where
  | array (items : List Json)
  | object (members : List (List Char × Json)) (key : List Char)

/-- What the next token may be, under the frames that are open, the innermost first. -/
inductive Reading where
  | value (frames : List Frame)
  | itemOrClose (frames : List Frame)
  | keyOrClose (frames : List Frame)
  | key (members : List (List Char × Json)) (frames : List Frame)
  | colon (members : List (List Char × Json)) (key : List Char) (frames : List Frame)
  | complete (json : Json) (frames : List Frame)

namespace Reading

/-- The first token of a value. -/
def enter (frames : List Frame) : Token → Option Reading
  | .word written => (ofWord? written).map (complete · frames)
  | .string written => some (complete (.string written) frames)
  | .openBracket => some (itemOrClose frames)
  | .openBrace => some (keyOrClose frames)
  | .closeBracket | .closeBrace | .colon | .comma => none

/-- What a token makes of the reading. What has been opened and not yet closed stays on the stack,
so values may be nested to any depth. -/
def step : Reading → Token → Option Reading
  | value frames, token => enter frames token
  | itemOrClose frames, .closeBracket => some (complete (.array []) frames)
  | itemOrClose frames, token => enter (.array [] :: frames) token
  | keyOrClose frames, .closeBrace => some (complete (.object []) frames)
  | keyOrClose frames, .string written => some (colon [] written frames)
  | key members frames, .string written => some (colon members written frames)
  | colon members written frames, .colon => some (value (.object members written :: frames))
  | complete json (.array items :: frames), .comma =>
    some (value (.array (json :: items) :: frames))
  | complete json (.array items :: frames), .closeBracket =>
    some (complete (.array (json :: items).reverse) frames)
  | complete json (.object members written :: frames), .comma =>
    some (key ((written, json) :: members) frames)
  | complete json (.object members written :: frames), .closeBrace =>
    some (complete (.object ((written, json) :: members).reverse) frames)
  | _, _ => none

/-- Reading ends well when one value is complete and nothing is open. -/
def result : Reading → Option Json
  | complete json [] => some json
  | _ => none

end Reading

/-- The value of a text that holds one value and blanks around it. -/
def ofText? (text : List Char) : Option Json := do
  let tokens ← Scan.between.tokens? text
  let last ← tokens.foldlM Reading.step (.value [])
  last.result

end GraphClient.Json
