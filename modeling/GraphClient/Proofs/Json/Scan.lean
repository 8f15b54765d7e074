import GraphClient.Json.Read
import GraphClient.Proofs.Json.Quoted
import Mathlib.Data.List.Chain

namespace GraphClient.Json

namespace Token

def isWord : Token → Bool
  | word _ => true
  | _ => false

/-- A token that the scan can find again: a word of its characters, or a string that it passes. -/
def Scannable : Token → Prop
  | word written => written ≠ [] ∧ ∀ character ∈ written, isWordCharacter character
  | string written => Passes written
  | openBracket | closeBracket | openBrace | closeBrace | colon | comma => True

theorem scannable_word {written : List Char} (nonempty : written ≠ [])
    (plain : written.all isWordCharacter) : (word written).Scannable :=
  ⟨nonempty, List.all_eq_true.1 plain⟩

end Token

/-- A text that does not carry on a word before it. -/
def EndsWord (text : List Char) : Prop :=
  ∀ character ∈ text.head?, isWordCharacter character = false

namespace Scan

/-- The scan takes the characters of a word into it. -/
theorem tokens?_word (read : List Char) {written : List Char}
    (plain : ∀ character ∈ written, isWordCharacter character) (rest : List Char) :
    (word read).tokens? (written ++ rest) = (word (written.reverse ++ read)).tokens? rest := by
  induction written generalizing read with
  | nil => rfl
  | cons head tail inductionHypothesis =>
      have ⟨headPlain, tailPlain⟩ := List.forall_mem_cons.1 plain
      have silent : (word read).step head = some ([], word (head :: read)) := by
        simp [step, headPlain]
      rw [List.cons_append, tokens?_of_silent silent, inductionHypothesis _ tailPlain]
      simp

/-- A word is complete where something ends it. -/
theorem tokens?_of_word_ended (read : List Char) {rest : List Char} (ended : EndsWord rest) :
    (word read).tokens? rest = (between.tokens? rest).map (.word read.reverse :: ·) := by
  cases rest with
  | nil => rfl
  | cons head tail =>
      have other : isWordCharacter head = false := ended head rfl
      rw [tokens?, tokens?, step, step, other]
      cases start head with
      | none => rfl
      | some result => simp [Function.comp_def]

/-- A word character is neither a blank nor a quote. -/
theorem start_of_isWordCharacter {character : Char} (plain : isWordCharacter character) :
    start character = some ([], word [character]) := by
  have blank : isBlank character = false := by
    rw [Bool.eq_false_iff]
    intro held
    simp only [isBlank, Bool.or_eq_true, beq_iff_eq] at held
    rcases held with ((rfl | rfl) | rfl) | rfl <;> exact absurd plain (by decide)
  have quote : character ≠ '"' := by
    rintro rfl
    exact absurd plain (by decide)
  simp [start, blank, quote, plain]

/-- The scan finds a token at the front of a text, if what follows does not carry on a word. -/
theorem tokens?_token {token : Token} (scannable : token.Scannable) {rest : List Char}
    (ended : token.isWord → EndsWord rest) :
    between.tokens? (token.text ++ rest) = (between.tokens? rest).map (token :: ·) := by
  cases token with
  | word written =>
      obtain ⟨nonempty, plain⟩ := scannable
      obtain ⟨head, tail, rfl⟩ := List.exists_cons_of_ne_nil nonempty
      have ⟨headPlain, tailPlain⟩ := List.forall_mem_cons.1 plain
      have silent : between.step head = some ([], word [head]) := start_of_isWordCharacter headPlain
      change between.tokens? (head :: (tail ++ rest)) = _
      rw [tokens?_of_silent silent, tokens?_word _ tailPlain, tokens?_of_word_ended _ (ended rfl)]
      simp
  | string written =>
      have silent : between.step '"' = some ([], string []) := rfl
      change between.tokens? ('"' :: (written ++ ['"']) ++ rest) = _
      rw [List.cons_append, tokens?_of_silent silent, List.append_assoc, scannable [],
        List.append_nil, List.singleton_append, tokens?, step, if_pos rfl, List.reverse_reverse]
      rfl
  | _ => rfl

/-- A token that is no word ends the word before it. -/
theorem endsWord_text {token : Token} (other : token.isWord = false) (rest : List Char) :
    EndsWord (token.text ++ rest) := by
  intro character front
  cases token with
  | word => cases other
  | _ =>
      obtain rfl : _ = character := Option.some_inj.1 front
      decide

end Scan

/-- Tokens that the scan can find again, of which no two words stand side by side. -/
structure Separated (tokens : List Token) : Prop where
  scannable : ∀ token ∈ tokens, token.Scannable
  apart : tokens.IsChain fun first second => first.isWord → second.isWord = false

namespace Separated

theorem nil : Separated [] :=
  ⟨by simp, .nil⟩

theorem single {token : Token} (scannable : token.Scannable) : Separated [token] :=
  ⟨by simpa using scannable, .singleton _⟩

/-- Tokens on both sides of one that is no word. -/
theorem join {before after : List Token} {mark : Token} (first : Separated before)
    (second : Separated after) (scannable : mark.Scannable) (other : mark.isWord = false) :
    Separated (before ++ mark :: after) := by
  constructor
  · intro token member
    rcases List.mem_append.1 member with early | late
    · exact first.scannable token early
    rcases List.mem_cons.1 late with rfl | later
    · exact scannable
    · exact second.scannable token later
  · refine List.isChain_append.2 ⟨first.apart, ?_, ?_⟩
    · refine List.isChain_cons.2 ⟨fun _ _ held => ?_, second.apart⟩
      rw [other] at held
      cases held
    · intro _ _ next front _
      obtain rfl : mark = next := Option.some_inj.1 front
      exact other

/-- Separated tokens are scanned back from their text. -/
theorem tokens?_text {tokens : List Token} (separated : Separated tokens) :
    Scan.between.tokens? (tokens.flatMap Token.text) = some tokens := by
  obtain ⟨scannable, apart⟩ := separated
  induction tokens with
  | nil => rfl
  | cons head tail inductionHypothesis =>
      have ⟨headScannable, tailScannable⟩ := List.forall_mem_cons.1 scannable
      have ⟨headApart, tailApart⟩ := List.isChain_cons.1 apart
      -- What ends a word is the front of the next token, or the end of the text.
      have ended : head.isWord → EndsWord (tail.flatMap Token.text) := by
        intro word
        cases tail with
        | nil =>
            intro character front
            cases front
        | cons next others =>
            rw [List.flatMap_cons]
            exact Scan.endsWord_text (headApart next rfl word) _
      rw [List.flatMap_cons, Scan.tokens?_token headScannable ended,
        inductionHypothesis tailScannable tailApart]
      rfl

end Separated

/-- A value whose numbers are written as numbers and whose strings the scan passes over. -/
inductive Readable : Json → Prop
  | null : Readable null
  | boolean (value : Bool) : Readable (boolean value)
  | number {written : List Char} (valid : isNumber written)
      (plain : ∀ character ∈ written, isWordCharacter character) : Readable (number written)
  | string {written : List Char} (passes : Passes written) : Readable (string written)
  | array {items : List Json} (each : ∀ item ∈ items, Readable item) : Readable (array items)
  | object {members : List (List Char × Json)} (keys : ∀ member ∈ members, Passes member.1)
      (values : ∀ member ∈ members, Readable member.2) : Readable (object members)

/-- The tokens of items stand apart, since commas do. -/
theorem separated_itemTokens {items : List Json} (each : ∀ item ∈ items, Separated item.tokens) :
    Separated (itemTokens items) := by
  induction items with
  | nil => exact .nil
  | cons first rest inductionHypothesis =>
      have ⟨firstSeparated, restSeparated⟩ := List.forall_mem_cons.1 each
      cases rest with
      | nil => exact firstSeparated
      | cons => exact firstSeparated.join (inductionHypothesis restSeparated) trivial rfl

theorem separated_memberTokens {members : List (List Char × Json)}
    (keys : ∀ member ∈ members, Passes member.1)
    (values : ∀ member ∈ members, Separated member.2.tokens) :
    Separated (memberTokens members) := by
  induction members with
  | nil => exact .nil
  | cons first rest inductionHypothesis =>
      have ⟨firstKey, restKeys⟩ := List.forall_mem_cons.1 keys
      have ⟨firstValue, restValues⟩ := List.forall_mem_cons.1 values
      have key : Separated [.string first.1] := .single firstKey
      cases rest with
      | nil => exact key.join firstValue trivial rfl
      | cons =>
          have tail := inductionHypothesis restKeys restValues
          exact key.join (firstValue.join tail trivial rfl) trivial rfl

/-- The tokens of a readable value can be told from their text. -/
theorem Readable.separated {json : Json} (readable : Readable json) : Separated json.tokens := by
  induction readable with
  | null => exact .single (Token.scannable_word (by decide) (by decide))
  | boolean value => cases value <;> exact .single (Token.scannable_word (by decide) (by decide))
  | number valid plain =>
      refine .single ⟨?_, plain⟩
      rintro rfl
      exact absurd valid (by decide)
  | string passes => exact .single passes
  | array _ each =>
      exact Separated.nil.join ((separated_itemTokens each).join .nil trivial rfl) trivial rfl
  | object keys _ values =>
      exact Separated.nil.join ((separated_memberTokens keys values).join .nil trivial rfl) trivial rfl

end GraphClient.Json
