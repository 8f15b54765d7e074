import GraphClient.Json.Quoted
import Mathlib.Data.List.Basic

namespace GraphClient.Json

open Text (isHexDigit hexDigitValue)

namespace Scan

/-- A character that completes no token leads on to the next place of the scan. -/
theorem tokens?_of_silent {scan next : Scan} {character : Char}
    (silent : scan.step character = some ([], next)) (rest : List Char) :
    scan.tokens? (character :: rest) = next.tokens? rest := by
  rw [tokens?, silent]
  simp

end Scan

/-- The scan passes over the characters between quotes and keeps them as they stand. -/
def Passes (written : List Char) : Prop :=
  ∀ read rest, (Scan.string read).tokens? (written ++ rest) =
    (Scan.string (written.reverse ++ read)).tokens? rest

namespace Passes

theorem nil : Passes [] :=
  fun _ _ => rfl

theorem append {first second : List Char} (before : Passes first) (after : Passes second) :
    Passes (first ++ second) := by
  intro read rest
  rw [List.append_assoc, before, after, List.reverse_append, List.append_assoc]

/-- The scan passes over a text if it passes over what each part is written as. -/
theorem flatMap {Element : Type} {write : Element → List Char}
    (each : ∀ element, Passes (write element)) (elements : List Element) :
    Passes (elements.flatMap write) := by
  induction elements with
  | nil => exact nil
  | cons head tail inductionHypothesis =>
      rw [List.flatMap_cons]
      exact (each head).append inductionHypothesis

/-- A character that needs no escape stands for itself. -/
theorem plain {character : Char} (quote : character ≠ '"') (backslash : character ≠ '\\')
    (printable : 32 ≤ character.toNat) : Passes [character] := by
  intro read rest
  apply Scan.tokens?_of_silent
  have control : ¬character.toNat < 32 := Nat.not_lt.2 printable
  simp [Scan.step, quote, backslash, control]

/-- A backslash and the one character after it. -/
theorem short {code : Char} (known : code ∈ shortEscapes) : Passes ['\\', code] := by
  intro read rest
  have other : code ≠ 'u' := by
    rintro rfl
    exact absurd known (by decide)
  calc (Scan.string read).tokens? ('\\' :: code :: rest)
    _ = (Scan.escape ('\\' :: read)).tokens? (code :: rest) :=
        Scan.tokens?_of_silent rfl _
    _ = (Scan.string (code :: '\\' :: read)).tokens? rest :=
        Scan.tokens?_of_silent (by simp [Scan.step, other, known]) _

/-- A backslash and the four digits of a unit. -/
theorem unit {first second third fourth : Char} (firstDigit : isHexDigit first)
    (secondDigit : isHexDigit second) (thirdDigit : isHexDigit third)
    (fourthDigit : isHexDigit fourth) : Passes ['\\', 'u', first, second, third, fourth] := by
  intro read rest
  have digit (missing : Nat) {character : Char} (valid : isHexDigit character)
      (read rest : List Char) :
      (Scan.hexadecimal (missing + 2) read).tokens? (character :: rest) =
        (Scan.hexadecimal (missing + 1) (character :: read)).tokens? rest :=
    Scan.tokens?_of_silent (by simp [Scan.step, valid]) rest
  calc (Scan.string read).tokens? ('\\' :: 'u' :: first :: second :: third :: fourth :: rest)
    _ = (Scan.escape ('\\' :: read)).tokens? ('u' :: first :: second :: third :: fourth :: rest) :=
        Scan.tokens?_of_silent rfl _
    _ = (Scan.hexadecimal 4 ('u' :: '\\' :: read)).tokens?
          (first :: second :: third :: fourth :: rest) :=
        Scan.tokens?_of_silent rfl _
    _ = (Scan.hexadecimal 1 (third :: second :: first :: 'u' :: '\\' :: read)).tokens?
          (fourth :: rest) := by
        rw [digit 2 firstDigit, digit 1 secondDigit, digit 0 thirdDigit]
    _ = (Scan.string (fourth :: third :: second :: first :: 'u' :: '\\' :: read)).tokens? rest :=
        Scan.tokens?_of_silent (by simp [Scan.step, fourthDigit]) _

end Passes

theorem isHexDigit_hexDigitText {value : Nat} (small : value < 16) :
    isHexDigit (hexDigitText value) := by
  have digits : ∀ value < 16, isHexDigit (Nat.digitChar value) := by decide
  exact digits value small

theorem hexDigitValue_hexDigitText (value : Nat) (small : value < 16) :
    hexDigitValue (hexDigitText value) = value := by
  have digits : ∀ value < 16, hexDigitValue (Nat.digitChar value) = value := by decide
  exact digits value small

/-- A character is written after a backslash, as a unit, or as itself. -/
theorem escape_cases (character : Char) :
    (∃ code ∈ shortEscapes, shortEscapeValue? code = some character ∧
      escape character = ['\\', code]) ∨
    (character.toNat < 32 ∧ escape character =
      ['\\', 'u', '0', '0', hexDigitText (character.toNat / 16),
        hexDigitText (character.toNat % 16)]) ∨
    (character ≠ '"' ∧ character ≠ '\\' ∧ 32 ≤ character.toNat ∧
      escape character = [character]) := by
  have short (code : Char) (known : code ∈ shortEscapes)
      (value : shortEscapeValue? code = some character) :
      ∃ other ∈ shortEscapes, shortEscapeValue? other = some character ∧
        ['\\', code] = ['\\', other] :=
    ⟨code, known, value, rfl⟩
  unfold escape
  split_ifs with quote backslash backspace tab newline formFeed carriageReturn control
  · exact .inl (short '"' (by decide) (by rw [quote]; rfl))
  · exact .inl (short '\\' (by decide) (by rw [backslash]; rfl))
  · exact .inl (short 'b' (by decide) (by rw [backspace]; rfl))
  · exact .inl (short 't' (by decide) (by rw [tab]; rfl))
  · exact .inl (short 'n' (by decide) (by rw [newline]; rfl))
  · exact .inl (short 'f' (by decide) (by rw [formFeed]; rfl))
  · exact .inl (short 'r' (by decide) (by rw [carriageReturn]; rfl))
  · exact .inr (.inl ⟨control, rfl⟩)
  · exact .inr (.inr ⟨quote, backslash, Nat.not_lt.1 control, rfl⟩)

/-- What a character is written as holds no bare quote and no bare control. -/
theorem passes_escape (character : Char) : Passes (escape character) := by
  rcases escape_cases character with ⟨code, known, -, shape⟩ | ⟨control, shape⟩ |
    ⟨quote, backslash, printable, shape⟩
  · rw [shape]
    exact Passes.short known
  · rw [shape]
    exact Passes.unit (by decide) (by decide) (isHexDigit_hexDigitText (by omega))
      (isHexDigit_hexDigitText (by omega))
  · rw [shape]
    exact Passes.plain quote backslash printable

/-- The scan passes over every written text. -/
theorem passes_written (text : String) : Passes (written text) :=
  Passes.flatMap passes_escape text.toList

/-- What a character is written as is read as that character. -/
theorem units?_escape (character : Char) (rest : List Char) :
    units? (escape character ++ rest) = (units? rest).map (character.toNat :: ·) := by
  rcases escape_cases character with ⟨code, known, value, shape⟩ | ⟨control, shape⟩ |
    ⟨-, backslash, -, shape⟩
  · have other : code ≠ 'u' := by
      rintro rfl
      exact absurd known (by decide)
    rw [shape, List.cons_append, List.singleton_append, units?, value]
    exact fun _ _ _ _ _ unit _ => other unit
  · have high := hexDigitValue_hexDigitText (character.toNat / 16) (by omega)
    have low := hexDigitValue_hexDigitText (character.toNat % 16) (by omega)
    have zero : hexDigitValue '0' = 0 := by decide
    have sum : 16 * (character.toNat / 16) + character.toNat % 16 = character.toNat := by omega
    rw [shape]
    simp only [List.cons_append, List.nil_append, units?, List.foldl_cons, List.foldl_nil, zero,
      high, low, Nat.mul_zero, Nat.zero_add, sum]
  · rw [shape, List.singleton_append, units?]
    · exact fun _ _ _ _ _ escaped _ => backslash escaped
    · exact fun _ _ escaped _ => backslash escaped

/-- The units of a written text are its characters. -/
theorem units?_written (text : String) :
    units? (written text) = some (text.toList.map Char.toNat) := by
  unfold written
  induction text.toList with
  | nil => rfl
  | cons head tail inductionHypothesis =>
      rw [List.flatMap_cons, units?_escape, inductionHypothesis]
      rfl

/-- Code points of characters are no halves of surrogate pairs. -/
theorem joinSurrogates_map_toNat (text : List Char) :
    joinSurrogates (text.map Char.toNat) = some text := by
  induction text with
  | nil => rfl
  | cons head tail inductionHypothesis =>
      have valid : head.toNat < 0xd800 ∨ 0xdfff < head.toNat ∧ head.toNat < 0x110000 := head.valid
      have high : isHighSurrogate head.toNat = false := by
        simp only [isHighSurrogate, Bool.and_eq_false_iff, decide_eq_false_iff_not]
        omega
      have low : isLowSurrogate head.toNat = false := by
        simp only [isLowSurrogate, Bool.and_eq_false_iff, decide_eq_false_iff_not]
        omega
      rw [List.map_cons, joinSurrogates.eq_def]
      simp [high, low, inductionHypothesis]

/-- A written text is read back as the text that it was written from. -/
theorem unwritten?_written (text : String) : unwritten? (written text) = some text := by
  rw [unwritten?, units?_written, Option.bind_some, joinSurrogates_map_toNat, Option.map_some,
    String.ofList_toList]

end GraphClient.Json
