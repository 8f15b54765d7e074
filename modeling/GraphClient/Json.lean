namespace GraphClient

/-- JSON values with numbers, strings and keys as they are written. Keeping the written form means
that a value can be skipped without being understood. -/
inductive Json where
  | null
  | boolean (value : Bool)
  | number (written : List Char)
  | string (written : List Char)
  | array (items : List Json)
  | object (members : List (List Char × Json))
deriving Inhabited

namespace Json

/-- The smallest parts of a text. A word is a run of letters, digits, signs and points; a string is
what stands between its quotes. -/
inductive Token where
  | openBracket
  | closeBracket
  | openBrace
  | closeBrace
  | colon
  | comma
  | word (written : List Char)
  | string (written : List Char)
deriving DecidableEq, Inhabited

def Token.text : Token → List Char
  | openBracket => ['[']
  | closeBracket => [']']
  | openBrace => ['\x7b']
  | closeBrace => ['\x7d']
  | colon => [':']
  | comma => [',']
  | word written => written
  | string written => '"' :: written ++ ['"']

mutual

/-- The tokens of a value in order. -/
def tokens : Json → List Token
  | null => [.word "null".toList]
  | boolean true => [.word "true".toList]
  | boolean false => [.word "false".toList]
  | number written => [.word written]
  | string written => [.string written]
  | array items => .openBracket :: itemTokens items ++ [.closeBracket]
  | object members => .openBrace :: memberTokens members ++ [.closeBrace]

def itemTokens : List Json → List Token
  | [] => []
  | [last] => last.tokens
  | first :: rest => first.tokens ++ .comma :: itemTokens rest

def memberTokens : List (List Char × Json) → List Token
  | [] => []
  | [(key, last)] => .string key :: .colon :: last.tokens
  | (key, first) :: rest => .string key :: .colon :: first.tokens ++ .comma :: memberTokens rest

end

/-- The text of a value, without blanks. -/
def text (json : Json) : List Char :=
  json.tokens.flatMap Token.text

end Json

end GraphClient
