import GraphClient.Proofs.Json.Scan

namespace GraphClient.Json

namespace Reading

/-- The tokens lead from one place of the reading to another. -/
def Reaches (before : Reading) (tokens : List Token) (after : Reading) : Prop :=
  tokens.foldlM step before = some after

namespace Reaches

variable {before between after : Reading} {first second : List Token} {token : Token}

theorem stop : Reaches before [] before :=
  rfl

theorem next (here : before.step token = some between) (further : Reaches between second after) :
    Reaches before (token :: second) after := by
  unfold Reaches
  rw [List.foldlM_cons, here]
  exact further

theorem append (reached : Reaches before first between) (further : Reaches between second after) :
    Reaches before (first ++ second) after := by
  unfold Reaches
  rw [List.foldlM_append, reached]
  exact further

end Reaches

/-- A value is expected under the frames. An array may close where its first item is expected. -/
def Expects (before : Reading) (frames : List Frame) : Prop :=
  ∀ token, token ≠ .closeBracket → before.step token = enter frames token

theorem expects_value (frames : List Frame) : Expects (value frames) frames :=
  fun _ _ => rfl

theorem expects_itemOrClose (frames : List Frame) :
    Expects (itemOrClose frames) (.array [] :: frames) := by
  intro token other
  cases token with
  | closeBracket => exact absurd rfl other
  | _ => rfl

/-- A key is expected behind the members. An object may close where its first key is expected. -/
def ExpectsKey (before : Reading) (members : List (List Char × Json)) (frames : List Frame) : Prop :=
  ∀ written, before.step (.string written) = some (colon members written frames)

/-- The tokens are read as the value wherever one is expected. -/
def Spells (tokens : List Token) (json : Json) : Prop :=
  ∀ ⦃before frames⦄, Expects before frames → Reaches before tokens (complete json frames)

end Reading

open Reading

/-- Items are read one after another, behind those that were read before them. -/
theorem itemTokens_reaches {before : Reading} {frames : List Frame} {first : Json}
    {rest read : List Json} (expected : Expects before (.array read :: frames))
    (each : ∀ item ∈ first :: rest, Spells item.tokens item) :
    Reaches before (itemTokens (first :: rest) ++ [.closeBracket])
      (complete (.array (read.reverse ++ first :: rest)) frames) := by
  induction rest generalizing before first read with
  | nil =>
      have spelled := (List.forall_mem_cons.1 each).1
      rw [itemTokens, ← List.reverse_cons]
      exact (spelled expected).append (.next rfl .stop)
  | cons second others inductionHypothesis =>
      have ⟨spelled, further⟩ := List.forall_mem_cons.1 each
      -- The frame keeps the latest item first, so the first one joins those that were read.
      have tail := inductionHypothesis (expects_value (.array (first :: read) :: frames)) further
      rw [List.reverse_cons, List.append_assoc, List.singleton_append] at tail
      rw [itemTokens, List.append_assoc]
      · exact (spelled expected).append (.next rfl tail)
      · exact List.cons_ne_nil _ _

/-- An array is spelled by its brackets and what spells its items. -/
theorem spells_array {items : List Json} (each : ∀ item ∈ items, Spells item.tokens item) :
    Spells (array items).tokens (array items) := by
  intro before frames expected
  have opened : before.step .openBracket = some (itemOrClose frames) := expected _ nofun
  rw [tokens, List.cons_append]
  cases items with
  | nil => exact .next opened (.next rfl .stop)
  | cons first rest =>
      exact .next opened (itemTokens_reaches (expects_itemOrClose frames) each)

/-- A member leads to where its value is complete under its key. -/
theorem member_reaches {before : Reading} {frames : List Frame} {member : List Char × Json}
    {read : List (List Char × Json)} (expected : ExpectsKey before read frames)
    (spelled : Spells member.2.tokens member.2) :
    Reaches before (.string member.1 :: .colon :: member.2.tokens)
      (complete member.2 (.object read member.1 :: frames)) :=
  .next (expected member.1) (.next rfl (spelled (expects_value _)))

/-- Members are read one after another, behind those that were read before them. -/
theorem memberTokens_reaches {before : Reading} {frames : List Frame} {first : List Char × Json}
    {rest read : List (List Char × Json)} (expected : ExpectsKey before read frames)
    (each : ∀ member ∈ first :: rest, Spells member.2.tokens member.2) :
    Reaches before (memberTokens (first :: rest) ++ [.closeBrace])
      (complete (.object (read.reverse ++ first :: rest)) frames) := by
  induction rest generalizing before first read with
  | nil =>
      have spelled := (List.forall_mem_cons.1 each).1
      rw [memberTokens, ← List.reverse_cons]
      exact (member_reaches expected spelled).append (.next rfl .stop)
  | cons second others inductionHypothesis =>
      have ⟨spelled, further⟩ := List.forall_mem_cons.1 each
      have expectedNext : ExpectsKey (key (first :: read) frames) (first :: read) frames :=
        fun _ => rfl
      have tail := inductionHypothesis expectedNext further
      rw [List.reverse_cons, List.append_assoc, List.singleton_append] at tail
      rw [memberTokens, List.append_assoc]
      · exact (member_reaches expected spelled).append (.next rfl tail)
      · exact List.cons_ne_nil _ _

/-- An object is spelled by its braces and what spells its members. -/
theorem spells_object {members : List (List Char × Json)}
    (each : ∀ member ∈ members, Spells member.2.tokens member.2) :
    Spells (object members).tokens (object members) := by
  intro before frames expected
  have opened : before.step .openBrace = some (keyOrClose frames) := expected _ nofun
  rw [tokens, List.cons_append]
  cases members with
  | nil => exact .next opened (.next rfl .stop)
  | cons first rest =>
      have expectedKey : ExpectsKey (keyOrClose frames) [] frames := fun _ => rfl
      exact .next opened (memberTokens_reaches expectedKey each)

/-- A word that is a number stands for it. -/
theorem ofWord?_of_isNumber {written : List Char} (valid : isNumber written) :
    ofWord? written = some (number written) := by
  have other (word : List Char) (invalid : isNumber word = false) : written ≠ word := by
    rintro rfl
    rw [invalid] at valid
    cases valid
  rw [ofWord?, if_neg (other _ (by decide)), if_neg (other _ (by decide)),
    if_neg (other _ (by decide)), if_pos valid]

theorem spells_word {written : List Char} {json : Json} (known : ofWord? written = some json) :
    Spells [.word written] json := by
  intro before frames expected
  have read : before.step (.word written) = some (complete json frames) := by
    rw [expected (.word written) nofun, enter, known, Option.map_some]
  exact .next read .stop

/-- A readable value is spelled by its own tokens. -/
theorem Readable.spells {json : Json} (readable : Readable json) : Spells json.tokens json := by
  induction readable with
  | null => exact spells_word rfl
  | boolean value => cases value <;> exact spells_word rfl
  | number valid plain => exact spells_word (ofWord?_of_isNumber valid)
  | string passes => exact fun _ _ expected => .next (expected _ nofun) .stop
  | array _ each => exact spells_array each
  | object _ _ values => exact spells_object values

/-- The text of a readable value is read as that value. -/
theorem ofText?_text {json : Json} (readable : Readable json) : ofText? json.text = some json := by
  have scanned : Scan.between.tokens? json.text = some json.tokens :=
    readable.separated.tokens?_text
  have read : json.tokens.foldlM Reading.step (.value []) = some (.complete json []) :=
    readable.spells (expects_value [])
  rw [ofText?, scanned]
  change (json.tokens.foldlM Reading.step (.value [])).bind Reading.result = some json
  rw [read]
  rfl

end GraphClient.Json
