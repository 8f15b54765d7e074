import GraphClient.Json.Quoted
import GraphClient.Json.Read
import GraphClient.SortedMap

namespace GraphClient

/-- How values of a type are put into JSON and taken out of it. -/
class JsonFormat (Value : Type) where
  toJson : Value → Json
  ofJson? : Json → Option Value

namespace Json

open JsonFormat

/-- The text of a value in its JSON format. -/
def encode {Value : Type} [JsonFormat Value] (value : Value) : String :=
  String.ofList (toJson value).text

/-- Reads a value from a text that holds nothing else. -/
def decode? {Value : Type} [JsonFormat Value] (text : String) : Option Value :=
  (ofText? text.toList).bind ofJson?

/-- A number in decimal digits, without a sign and without needless zeros. -/
def decimal (value : Nat) : List Char :=
  Nat.toDigits 10 value

/-- The number of a text that is its decimal form. -/
def ofDecimal? (written : List Char) : Option Nat :=
  let value := Nat.ofDigitChars 10 written 0
  if written.all Char.isDigit ∧ decimal value = written then some value else none

/-- A number is read back from its digits. -/
theorem ofDecimal?_decimal (value : Nat) : ofDecimal? (decimal value) = some value := by
  have digits : ∀ character ∈ Nat.toDigits 10 value, character.isDigit = true := fun _ member =>
    Nat.isDigit_of_mem_toDigits (by decide) (by decide) member
  simpa [ofDecimal?, decimal] using digits

/-- A whole number below a bound, which must be written as a whole number. -/
def natural? (bound : Nat) : Json → Option Nat
  | number written => (ofDecimal? written).filter (· < bound)
  | _ => none

/-- A record is written as an object with its fields in their declared order. -/
def record (fields : List (String × Json)) : Json :=
  object (fields.map fun field => (written field.1, field.2))

/-- The values of the members with a name: one is a field, none is a missing field, and more are a
fault. -/
def member? (members : List (String × Json)) (name : String) : Option (Option Json) :=
  match members.filter fun member => member.1 = name with
  | [] => some none
  | [member] => some (some member.2)
  | _ => none

/-- The named fields in their declared order, each with its value if it is there. -/
def fields? (names : List String) : Json → Option (List (Option Json))
  | array items =>
    if items.length ≤ names.length then
      some (items.map some ++ List.replicate (names.length - items.length) none)
    else none
  | object members => do
    let members ← members.mapM fun member => (unwritten? member.1).map (·, member.2)
    names.mapM (member? members)
  | null | boolean _ | number _ | string _ => none

/-- A field that may be missing, and then has a value of its own. -/
def optionalField {Value : Type} [JsonFormat Value] (missing : Value) :
    Option Json → Option Value
  | none => some missing
  | some json => ofJson? json

end Json

open Json

instance : JsonFormat Bool where
  toJson := .boolean
  ofJson?
    | .boolean value => some value
    | _ => none

instance : JsonFormat UInt8 where
  toJson value := .number (decimal value.toNat)
  ofJson? json := (natural? UInt8.size json).map Nat.toUInt8

instance : JsonFormat UInt64 where
  toJson value := .number (decimal value.toNat)
  ofJson? json := (natural? UInt64.size json).map Nat.toUInt64

instance : JsonFormat String where
  toJson text := .string (written text)
  ofJson?
    | .string written => unwritten? written
    | _ => none

instance {Value : Type} [JsonFormat Value] : JsonFormat (List Value) where
  toJson values := .array (values.map JsonFormat.toJson)
  ofJson?
    | .array items => items.mapM JsonFormat.ofJson?
    | _ => none

instance {Value : Type} [JsonFormat Value] : JsonFormat (Option Value) where
  toJson
    | none => .null
    | some value => JsonFormat.toJson value
  ofJson?
    | .null => some none
    | json => (JsonFormat.ofJson? json).map some

/-- Keys of objects, in their written form. -/
class JsonKey (Key : Type) where
  toWritten : Key → List Char
  ofWritten? : List Char → Option Key

instance : JsonKey String where
  toWritten := written
  ofWritten? := unwritten?

/-- A number as a key stands between quotes without any escape. -/
instance : JsonKey UInt32 where
  toWritten key := decimal key.toNat
  ofWritten? written := ((ofDecimal? written).filter (· < UInt32.size)).map Nat.toUInt32

/-- A map is written as an object by ascending key; of repeated keys the last one counts. -/
instance {Key Value : Type} [Ord Key] [Std.TransOrd Key] [Std.LawfulEqOrd Key] [JsonKey Key]
    [JsonFormat Value] : JsonFormat (SortedMap Key Value) where
  toJson map :=
    .object (map.entries.map fun entry => (JsonKey.toWritten entry.1, JsonFormat.toJson entry.2))
  ofJson?
    | .object members =>
      (members.mapM fun (written, json) => do
        let key ← JsonKey.ofWritten? written
        let value ← JsonFormat.ofJson? json
        return (key, value)).map SortedMap.ofList
    | _ => none

end GraphClient
