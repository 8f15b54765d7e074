import GraphClient.Proofs.Json.Format

namespace GraphClient.Json

/-- The fields of the slots that hold something. -/
def filled (slots : List (String × Option Json)) : List (String × Json) :=
  slots.filterMap fun slot => slot.2.map (slot.1, ·)

theorem readable_record {fields : List (String × Json)}
    (each : ∀ field ∈ fields, field.2.Readable) : (record fields).Readable := by
  refine .object ?_ ?_
  · intro member inside
    obtain ⟨field, -, rfl⟩ := List.mem_map.1 inside
    exact passes_written field.1
  · intro member inside
    obtain ⟨field, present, rfl⟩ := List.mem_map.1 inside
    exact each field present

/-- A name that no slot has is not among the fields. -/
theorem filter_filled_of_absent {slots : List (String × Option Json)} {name : String}
    (absent : name ∉ slots.map Prod.fst) : (filled slots).filter (·.1 = name) = [] := by
  refine List.filter_eq_nil_iff.2 fun field inside same => absent ?_
  obtain ⟨slot, member, held⟩ := List.mem_filterMap.1 inside
  obtain ⟨json, -, rfl⟩ := Option.map_eq_some_iff.1 held
  rw [← of_decide_eq_true same]
  exact List.mem_map_of_mem member

/-- Of fields with distinct names, those under a name are the one that its slot holds. -/
theorem filter_filled {slots : List (String × Option Json)} (distinct : (slots.map Prod.fst).Nodup)
    {slot : String × Option Json} (member : slot ∈ slots) :
    (filled slots).filter (·.1 = slot.1) = slot.2.toList.map (slot.1, ·) := by
  induction slots with
  | nil => cases member
  | cons head tail inductionHypothesis =>
      have ⟨absent, others⟩ := List.nodup_cons.1 distinct
      have split : filled (head :: tail) = head.2.toList.map (head.1, ·) ++ filled tail := by
        cases held : head.2 <;> simp [filled, held]
      rw [split, List.filter_append]
      rcases List.mem_cons.1 member with rfl | later
      · rw [filter_filled_of_absent absent, List.append_nil]
        exact List.filter_eq_self.2 (by simp)
      · -- The head has a name of its own, so nothing of it is selected.
        have other : head.1 ≠ slot.1 := fun same => absent (same ▸ List.mem_map_of_mem later)
        rw [inductionHypothesis others later, List.filter_eq_nil_iff.2 (by simp [other]),
          List.nil_append]

/-- The members that fields are written as can be named again. -/
theorem exists_named {fields : List (String × Json)} {members : List (List Char × Json)}
    (each : List.Forall₂
      (fun field member => SameKey Reordered (written field.1, field.2) member) fields members) :
    ∃ named, members.mapM (fun member => (unwritten? member.1).map (·, member.2)) = some named ∧
      List.Forall₂ (SameKey Reordered) fields named := by
  induction each with
  | nil => exact ⟨[], rfl, .nil⟩
  | @cons field _ _ _ head _ inductionHypothesis =>
      obtain ⟨named, read, same⟩ := inductionHypothesis
      obtain ⟨value⟩ := head
      refine ⟨(field.1, _) :: named, ?_, .cons (.intro value) same⟩
      simp [List.mapM_cons, unwritten?_written, read]

/-- Under the name of a slot stands what the slot holds, or nothing if it holds nothing. -/
theorem member?_of_slot {slots : List (String × Option Json)}
    (distinct : (slots.map Prod.fst).Nodup) {moved named : List (String × Json)}
    (order : moved.Perm (filled slots))
    (each : List.Forall₂ (SameKey Reordered) moved named)
    {slot : String × Option Json} (inside : slot ∈ slots) :
    ∃ value, member? named slot.1 = some value ∧ Option.Rel Reordered slot.2 value := by
  have under : List.Forall₂ (SameKey Reordered) (moved.filter (·.1 = slot.1))
      (named.filter (·.1 = slot.1)) := by
    refine List.rel_filter ?_ each
    rintro _ _ ⟨-⟩
    rfl
  have selected := order.filter (·.1 = slot.1)
  rw [filter_filled distinct inside] at selected
  obtain ⟨name, content⟩ := slot
  unfold member?
  cases content with
  | none =>
      rw [List.perm_nil.1 selected] at under
      rw [List.forall₂_nil_left_iff.1 under]
      exact ⟨none, rfl, .none⟩
  | some json =>
      rw [List.perm_singleton.1 selected] at under
      obtain ⟨_, _, ⟨value⟩, nothing, shape⟩ := List.forall₂_cons_left_iff.1 under
      rw [shape, List.forall₂_nil_left_iff.1 nothing]
      exact ⟨some _, rfl, .some value⟩

/-- If each element is read, and rightly, so is the list. -/
theorem exists_mapM_eq_some {Element Value : Type} {read : Element → Option Value}
    {holds : Element → Value → Prop} {elements : List Element}
    (each : ∀ element ∈ elements, ∃ value, read element = some value ∧ holds element value) :
    ∃ values, elements.mapM read = some values ∧ List.Forall₂ holds elements values := by
  induction elements with
  | nil => exact ⟨[], rfl, .nil⟩
  | cons head tail inductionHypothesis =>
      have ⟨⟨value, first, held⟩, others⟩ := List.forall_mem_cons.1 each
      obtain ⟨values, rest, same⟩ := inductionHypothesis others
      exact ⟨value :: values, by simp [List.mapM_cons, first, rest], .cons held same⟩

/-- The fields of a reordered record are found under their names, and what was left out is missing. -/
theorem fields?_of_filled {slots : List (String × Option Json)} (names : List String) {json : Json}
    (reordered : (record (filled slots)).Reordered json) (named : slots.map Prod.fst = names)
    (distinct : names.Nodup) :
    ∃ values, fields? names json = some values ∧
      List.Forall₂ (fun slot value => Option.Rel Reordered slot.2 value) slots values := by
  subst named
  obtain ⟨moved, members, rfl, order, written⟩ := exists_perm_of_reordered reordered
  obtain ⟨named, read, each⟩ := exists_named written
  have held : ∀ slot ∈ slots,
      ∃ value, member? named slot.1 = some value ∧ Option.Rel Reordered slot.2 value :=
    fun _ => member?_of_slot distinct order each
  obtain ⟨values, found, same⟩ := exists_mapM_eq_some held
  refine ⟨values, ?_, same⟩
  rw [fields?, read]
  change (slots.map Prod.fst).mapM (member? named) = some values
  rw [List.mapM_map]
  exact found

/-- Fields that are all there are found with their values. -/
theorem exists_present {fields : List (String × Json)} {found : List (Option Json)}
    (each : List.Forall₂ (fun field value => Option.Rel Reordered (some field.2) value) fields
      found) :
    ∃ values : List Json, found = values.map some ∧
      List.Forall₂ (fun field value => field.2.Reordered value) fields values := by
  induction each with
  | nil => exact ⟨[], rfl, .nil⟩
  | cons head _ inductionHypothesis =>
      obtain ⟨values, rfl, same⟩ := inductionHypothesis
      obtain ⟨value⟩ := head
      exact ⟨_ :: values, rfl, .cons value same⟩

/-- Where no field is left out, all of them are found. -/
theorem fields?_of_record {fields : List (String × Json)} (names : List String) {json : Json}
    (reordered : (record fields).Reordered json) (named : fields.map Prod.fst = names)
    (distinct : names.Nodup) :
    ∃ values : List Json, fields? names json = some (values.map some) ∧
      List.Forall₂ (fun field value => field.2.Reordered value) fields values := by
  let slots := fields.map fun field => (field.1, some field.2)
  have whole : filled slots = fields := by
    simp [filled, slots]
  have slotNames : slots.map Prod.fst = names := by
    rw [← named, List.map_map]
    rfl
  rw [← whole] at reordered
  obtain ⟨found, read, each⟩ := fields?_of_filled names reordered slotNames distinct
  have present := List.forall₂_map_left_iff.1 each
  obtain ⟨values, rfl, same⟩ := exists_present present
  exact ⟨values, read, same⟩

/-- A field as it stands in the text of a record: its name between quotes, and its value. -/
def fieldText (field : String × Json) : List Char :=
  (Token.string (written field.1)).text ++ ':' :: field.2.text

/-- The members of an object are written with commas between them. -/
theorem text_members (fields : List (String × Json)) :
    (memberTokens (fields.map fun field => (written field.1, field.2))).flatMap Token.text =
      [','].intercalate (fields.map fieldText) := by
  induction fields with
  | nil => rfl
  | cons first rest inductionHypothesis =>
      cases rest with
      | nil => exact (List.intercalate_singleton).symm
      | cons second others =>
          simp only [List.map_cons] at inductionHypothesis ⊢
          rw [List.intercalate_cons_cons, ← inductionHypothesis, memberTokens,
            List.flatMap_append, List.append_assoc]
          · rfl
          · exact List.cons_ne_nil _ _

/-- A record is written as its fields with commas between them, inside braces. -/
theorem ofList_text_record (fields : List (String × Json)) :
    String.ofList (record fields).text =
      "\x7b" ++ ",".intercalate (fields.map fun field => String.ofList (fieldText field)) ++
        "\x7d" := by
  have shape : (record fields).text =
      '\x7b' :: [','].intercalate (fields.map fieldText) ++ ['\x7d'] := by
    rw [← text_members, text, record, tokens, List.flatMap_append]
    rfl
  apply String.toList_inj.1
  simp [shape, Function.comp_def]

theorem ofList_fieldText (name : String) {Value : Type} [JsonFormat Value] (value : Value) :
    String.ofList (fieldText (name, JsonFormat.toJson value)) =
      encode name ++ ":" ++ encode value := by
  have nameText : (JsonFormat.toJson name).text = (Token.string (written name)).text :=
    List.append_nil _
  apply String.toList_inj.1
  simp [encode, fieldText, nameText]

end GraphClient.Json
