import GraphClient.Json.Format
import GraphClient.Proofs.Json.Read
import GraphClient.SortedMap.Lemmas
import Mathlib.Data.List.Perm.Basic
import Mathlib.Data.List.TakeWhile

namespace GraphClient.Json

/-- Values under one key that are related as values. -/
inductive SameKey {Key : Type} (related : Json → Json → Prop) : Key × Json → Key × Json → Prop
  | intro {key : Key} {first second : Json} (values : related first second) :
    SameKey related (key, first) (key, second)

/-- The second value is the first one with the members of its objects, at any depth, in some order. -/
inductive Reordered : Json → Json → Prop
  | null : Reordered null null
  | boolean (value : Bool) : Reordered (boolean value) (boolean value)
  | number (written : List Char) : Reordered (number written) (number written)
  | string (written : List Char) : Reordered (string written) (string written)
  | array {items others : List Json} (each : List.Forall₂ Reordered items others) :
    Reordered (array items) (array others)
  | object {members moved others : List (List Char × Json)} (order : members.Perm moved)
    (each : List.Forall₂ (SameKey Reordered) moved others) :
    Reordered (object members) (object others)

/-- What holds of all that the elements of one list are related to holds in the other list. -/
theorem forall_mem_of_forall₂ {First Second : Type} {related : First → Second → Prop}
    {holds : Second → Prop} {firsts : List First} {seconds : List Second}
    (paired : List.Forall₂ related firsts seconds)
    (each : ∀ first ∈ firsts, ∀ second, related first second → holds second) :
    ∀ second ∈ seconds, holds second := by
  induction paired with
  | nil => exact List.forall_mem_nil _
  | cons head _ inductionHypothesis =>
      have ⟨front, behind⟩ := List.forall_mem_cons.1 each
      exact List.forall_mem_cons.2 ⟨front _ head, inductionHypothesis behind⟩

/-- A value stays readable when the members of its objects are listed in another order. -/
theorem Readable.of_reordered {json other : Json} (readable : Readable json)
    (reordered : Reordered json other) : Readable other := by
  induction readable generalizing other with
  | null =>
      cases reordered
      exact .null
  | boolean =>
      cases reordered
      exact .boolean _
  | number valid plain =>
      cases reordered
      exact .number valid plain
  | string passes =>
      cases reordered
      exact .string passes
  | array _ values =>
      cases reordered with
      | array changed =>
          exact .array (forall_mem_of_forall₂ changed fun item inside _ => values item inside)
  | object keys _ values =>
      cases reordered with
      | object order changed =>
          refine .object ?_ ?_
          · refine forall_mem_of_forall₂ changed ?_
            rintro _ inside _ ⟨-⟩
            -- A member keeps its key wherever it is moved.
            have key := keys _ (order.mem_iff.2 inside)
            exact key
          · refine forall_mem_of_forall₂ changed ?_
            rintro _ inside _ ⟨value⟩
            exact values _ (order.mem_iff.2 inside) value

/-- The order that the members stand in is one of their orders. -/
theorem Readable.reordered {json : Json} (readable : Readable json) : Reordered json json := by
  induction readable with
  | null => exact .null
  | boolean => exact .boolean _
  | number => exact .number _
  | string => exact .string _
  | array _ each => exact .array (List.forall₂_same.2 each)
  | object _ _ values =>
      exact .object (.refl _) (List.forall₂_same.2 fun member inside => .intro (values member inside))

theorem isDigit_of_mem_decimal {value : Nat} {character : Char}
    (member : character ∈ decimal value) : character.isDigit :=
  Nat.isDigit_of_mem_toDigits (by decide) (by decide) member

theorem head?_decimal {value : Nat} (positive : 0 < value) :
    (decimal value).head? ≠ some '0' := by
  unfold decimal
  induction value using Nat.strongRecOn with
  | ind value inductionHypothesis =>
      -- The last digit goes; what is left in front of it is not zero.
      rw [Nat.toDigits_eq_if (by decide)]
      split_ifs with small
      · simp [positive.ne']
      · rw [List.head?_append_of_ne_nil _ Nat.toDigits_ne_nil]
        exact inductionHypothesis _ (by omega) (by omega)

theorem isNumber_decimal (value : Nat) : isNumber (decimal value) := by
  rcases Nat.eq_zero_or_pos value with rfl | positive
  · decide
  have digits : ∀ character ∈ decimal value, character.isDigit := fun _ => isDigit_of_mem_decimal
  have front := head?_decimal positive
  obtain ⟨first, rest, shape⟩ := List.exists_cons_of_ne_nil (l := decimal value) Nat.toDigits_ne_nil
  rw [shape] at digits front ⊢
  have firstDigit := digits first List.mem_cons_self
  have unsigned : first ≠ '-' := by
    rintro rfl
    exact absurd firstDigit (by decide)
  have nonzero : first ≠ '0' := fun zero => front (congrArg some zero)
  have spent : (first :: rest).dropWhile Char.isDigit = [] := List.dropWhile_eq_nil_iff.2 digits
  have whole : afterWhole (first :: rest) = some [] := by
    rw [afterWhole, afterDigits, if_pos firstDigit, spent]
    exact fun _ zero => nonzero (List.cons.inj zero).1
  have sign : afterSign ['-'] (first :: rest) = first :: rest := by
    simp [afterSign, unsigned]
  rw [isNumber, sign, whole]
  rfl

/-- Numbers are readable. -/
theorem readable_decimal (value : Nat) : Readable (number (decimal value)) := by
  refine .number (isNumber_decimal value) fun character member => ?_
  simp [isWordCharacter, Char.isAlphanum, isDigit_of_mem_decimal member]

/-- A number of any bounded type is read back from its decimal digits. -/
theorem map_natural?_of_reordered {Value : Type} {toNat : Value → Nat} {ofNat : Nat → Value}
    {bound : Nat} (inverse : ∀ value, ofNat (toNat value) = value)
    (below : ∀ value, toNat value < bound) {value : Value} {json : Json}
    (reordered : (number (decimal (toNat value))).Reordered json) :
    (natural? bound json).map ofNat = some value := by
  cases reordered
  simp [natural?, ofDecimal?_decimal, below, inverse]

theorem passes_of_isDigit {written : List Char}
    (digits : ∀ character ∈ written, character.isDigit) : Passes written := by
  induction written with
  | nil => exact .nil
  | cons first rest inductionHypothesis =>
      have ⟨digit, others⟩ := List.forall_mem_cons.1 digits
      have quote : first ≠ '"' := by
        rintro rfl
        exact absurd digit (by decide)
      have backslash : first ≠ '\\' := by
        rintro rfl
        exact absurd digit (by decide)
      have printable : 32 ≤ first.toNat :=
        Nat.le_trans (by decide) (Char.isDigit_iff_toNat.1 digit).1
      exact (Passes.plain quote backslash printable).append (inductionHypothesis others)

end GraphClient.Json

namespace GraphClient

open Json JsonFormat

/-- The values can be written, and each is read back from its JSON in whatever order. -/
class LawfulJson (Value : Type) [JsonFormat Value] : Prop where
  readable (value : Value) : (toJson value).Readable
  ofJson?_of_reordered {value : Value} {json : Json} (reordered : (toJson value).Reordered json) :
    ofJson? json = some value

/-- The written keys stand between quotes, and each is read back as the key that it was. -/
class LawfulJsonKey (Key : Type) [JsonKey Key] : Prop where
  passes (key : Key) : Passes (JsonKey.toWritten key)
  ofWritten?_toWritten (key : Key) : JsonKey.ofWritten? (JsonKey.toWritten key) = some key

open LawfulJson LawfulJsonKey

namespace Json

/-- A value is read back from every text that its JSON has. -/
theorem decode?_of_reordered {Value : Type} [JsonFormat Value] [LawfulJson Value] {value : Value}
    {json : Json} (reordered : (toJson value).Reordered json) :
    decode? (String.ofList json.text) = some value := by
  have readable : json.Readable := (LawfulJson.readable value).of_reordered reordered
  rw [decode?, String.toList_ofList, ofText?_text readable, Option.bind_some]
  exact ofJson?_of_reordered reordered

/-- Elements that are all read are read as a list. -/
theorem mapM_eq_some_of_forall₂ {First Second : Type} {read : Second → Option First}
    {firsts : List First} {seconds : List Second}
    (each : List.Forall₂ (fun first second => read second = some first) firsts seconds) :
    seconds.mapM read = some firsts := by
  induction each with
  | nil => rfl
  | cons head _ inductionHypothesis => simp [List.mapM_cons, head, inductionHypothesis]

/-- The members of a reordered object come from the same elements, in the order they now stand in. -/
theorem exists_perm_of_reordered {Element : Type} {write : Element → List Char × Json}
    {elements : List Element} {json : Json}
    (reordered : (object (elements.map write)).Reordered json) :
    ∃ moved others, json = object others ∧ moved.Perm elements ∧
      List.Forall₂ (fun element other => SameKey Reordered (write element) other) moved others := by
  generalize written : object (elements.map write) = source at reordered
  cases reordered with
  | object order each =>
      obtain rfl := Json.object.inj written
      -- To move what was written is to write what was moved.
      have traced : Relation.Comp (· = List.map write ·) List.Perm _ elements :=
        (congrFun₂ (List.eq_map_comp_perm write) _ elements).mpr order.symm
      obtain ⟨moved, rfl, same⟩ := traced
      exact ⟨moved, _, rfl, same, List.forall₂_map_left_iff.1 each⟩
  | _ => cases written

end Json

instance : LawfulJson Bool where
  readable := .boolean
  ofJson?_of_reordered reordered := by
    cases reordered
    rfl

instance : LawfulJson UInt8 where
  readable value := readable_decimal value.toNat
  ofJson?_of_reordered := map_natural?_of_reordered (fun _ => UInt8.ofNat_toNat) UInt8.toNat_lt

instance : LawfulJson UInt64 where
  readable value := readable_decimal value.toNat
  ofJson?_of_reordered := map_natural?_of_reordered (fun _ => UInt64.ofNat_toNat) UInt64.toNat_lt

instance : LawfulJson String where
  readable text := .string (passes_written text)
  ofJson?_of_reordered reordered := by
    cases reordered
    exact unwritten?_written _

instance {Value : Type} [JsonFormat Value] [LawfulJson Value] : LawfulJson (List Value) where
  readable values := by
    refine .array fun item inside => ?_
    obtain ⟨value, -, rfl⟩ := List.mem_map.1 inside
    exact LawfulJson.readable value
  ofJson?_of_reordered reordered := by
    cases reordered with
    | array each =>
        have read := List.forall₂_map_left_iff.1 each
        exact mapM_eq_some_of_forall₂ (read.imp fun _ _ => ofJson?_of_reordered)

instance : LawfulJsonKey String where
  passes := passes_written
  ofWritten?_toWritten := unwritten?_written

instance : LawfulJsonKey UInt32 where
  passes _ := passes_of_isDigit fun _ => isDigit_of_mem_decimal
  ofWritten?_toWritten key := by
    change ((ofDecimal? (decimal key.toNat)).filter (· < UInt32.size)).map Nat.toUInt32 = some key
    have below : key.toNat < UInt32.size := key.toNat_lt
    simp [ofDecimal?_decimal, below]

instance {Key Value : Type} [Ord Key] [Std.TransOrd Key] [Std.LawfulEqOrd Key] [JsonKey Key]
    [LawfulJsonKey Key] [JsonFormat Value] [LawfulJson Value] :
    LawfulJson (SortedMap Key Value) where
  readable map := by
    refine .object ?_ ?_
    · intro member inside
      obtain ⟨entry, -, rfl⟩ := List.mem_map.1 inside
      exact passes entry.1
    · intro member inside
      obtain ⟨entry, -, rfl⟩ := List.mem_map.1 inside
      exact LawfulJson.readable entry.2
  ofJson?_of_reordered {map json} reordered := by
    obtain ⟨entries, members, rfl, order, each⟩ := exists_perm_of_reordered reordered
    let read (member : List Char × Json) : Option (Key × Value) := do
      let key ← JsonKey.ofWritten? member.1
      let value ← ofJson? member.2
      return (key, value)
    have entriesRead : members.mapM read = some entries := by
      refine mapM_eq_some_of_forall₂ (each.imp ?_)
      rintro ⟨key, value⟩ _ ⟨same⟩
      simp [read, ofWritten?_toWritten, ofJson?_of_reordered same]
    change (members.mapM read).map SortedMap.ofList = some map
    rw [entriesRead, Option.map_some, SortedMap.ofList_of_perm order]

end GraphClient
