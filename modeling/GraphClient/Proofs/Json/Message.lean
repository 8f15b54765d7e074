/-
The JSON texts of the messages, of the errors and of the settings. Each is read back from the text
that it is encoded to, and from any other one that only lists the members of objects in another
order.
-/

import GraphClient.Message.Format
import GraphClient.Proofs.Json.Record
import GraphClient.Settings

namespace GraphClient

open Json JsonFormat LawfulJson

instance : LawfulJson Watermark where
  readable watermark := readable_record (by simp [readable])
  ofJson?_of_reordered reordered := by
    obtain ⟨_, found, each⟩ := fields?_of_record ["versions"] reordered rfl (by decide)
    obtain _ | ⟨versions, ⟨⟩⟩ := each
    unfold ofJson? instJsonFormatWatermark
    simp [found, ofJson?_of_reordered versions]

instance : LawfulJson WireContext where
  readable context := readable_record (by simp [readable])
  ofJson?_of_reordered reordered := by
    obtain ⟨_, found, each⟩ :=
      fields?_of_record ["start_ts", "commit_ts", "aborted", "keys", "watermark"]
        reordered rfl (by decide)
    obtain _ | ⟨start, _ | ⟨commit, _ | ⟨aborted, _ | ⟨keys, _ | ⟨watermark, ⟨⟩⟩⟩⟩⟩⟩ := each
    unfold ofJson? instJsonFormatWireContext
    simp [found, ofJson?_of_reordered start, ofJson?_of_reordered commit,
      ofJson?_of_reordered aborted, ofJson?_of_reordered keys, ofJson?_of_reordered watermark]

instance : LawfulJson QueryRequest where
  readable request := readable_record (by simp [readable])
  ofJson?_of_reordered reordered := by
    obtain ⟨_, found, each⟩ :=
      fields?_of_record
        ["query", "vars", "start_ts", "watermark", "read_only", "best_effort"]
        reordered rfl (by decide)
    obtain _ | ⟨query, _ | ⟨bindings, _ | ⟨start, _ | ⟨watermark, _ | ⟨readOnly, _ |
      ⟨bestEffort, ⟨⟩⟩⟩⟩⟩⟩⟩ := each
    unfold ofJson? instJsonFormatQueryRequest
    simp [found, ofJson?_of_reordered query, ofJson?_of_reordered bindings,
      ofJson?_of_reordered start, ofJson?_of_reordered watermark, ofJson?_of_reordered readOnly,
      ofJson?_of_reordered bestEffort]

instance : LawfulJson QueryReply where
  readable reply := readable_record (by simp [readable])
  ofJson?_of_reordered reordered := by
    obtain ⟨_, found, each⟩ :=
      fields?_of_record ["json", "txn"] reordered rfl (by decide)
    obtain _ | ⟨body, _ | ⟨context, ⟨⟩⟩⟩ := each
    unfold ofJson? instJsonFormatQueryReply
    simp [found, ofJson?_of_reordered body, ofJson?_of_reordered context]

instance : LawfulJson Mutation where
  readable mutation := readable_record (by simp [readable])
  ofJson?_of_reordered reordered := by
    obtain ⟨_, found, each⟩ :=
      fields?_of_record
        ["set_json", "delete_json", "set_nquads", "del_nquads", "start_ts", "commit_now",
          "ignore_index_conflict"] reordered rfl (by decide)
    obtain _ | ⟨setJson, _ | ⟨deleteJson, _ | ⟨setTriples, _ | ⟨deleteTriples, _ | ⟨start, _ |
      ⟨commitNow, _ | ⟨ignore, ⟨⟩⟩⟩⟩⟩⟩⟩⟩ := each
    unfold ofJson? instJsonFormatMutation
    simp [found, ofJson?_of_reordered setJson, ofJson?_of_reordered deleteJson,
      ofJson?_of_reordered setTriples, ofJson?_of_reordered deleteTriples,
      ofJson?_of_reordered start, ofJson?_of_reordered commitNow, ofJson?_of_reordered ignore]

instance : LawfulJson SchemaChange where
  readable change := readable_record (by simp [readable])
  ofJson?_of_reordered reordered := by
    obtain ⟨_, found, each⟩ :=
      fields?_of_record ["schema", "drop_attr", "drop_all"] reordered rfl (by decide)
    obtain _ | ⟨schema, _ | ⟨dropAttribute, _ | ⟨dropAll, ⟨⟩⟩⟩⟩ := each
    unfold ofJson? instJsonFormatSchemaChange
    simp [found, ofJson?_of_reordered schema, ofJson?_of_reordered dropAttribute,
      ofJson?_of_reordered dropAll]

instance : LawfulJson SchemaReply where
  readable reply := readable_record (by simp [readable])
  ofJson?_of_reordered reordered := by
    obtain ⟨_, found, each⟩ := fields?_of_record ["data"] reordered rfl (by decide)
    obtain _ | ⟨body, ⟨⟩⟩ := each
    unfold ofJson? instJsonFormatSchemaReply
    simp [found, ofJson?_of_reordered body]

instance : LawfulJson ServerVersion where
  readable version := readable_record (by simp [readable])
  ofJson?_of_reordered reordered := by
    obtain ⟨_, found, each⟩ := fields?_of_record ["tag"] reordered rfl (by decide)
    obtain _ | ⟨tag, ⟨⟩⟩ := each
    unfold ofJson? instJsonFormatServerVersion
    simp [found, ofJson?_of_reordered tag]

instance : LawfulJson Status where
  readable status := readable status.name
  ofJson?_of_reordered {status _} reordered := by
    cases reordered
    change (unwritten? (written status.name)).bind Status.ofName? = some status
    rw [unwritten?_written, Option.bind_some, Status.ofName?_name]

instance : LawfulJson CallError where
  readable error := readable_record (by simp [readable])
  ofJson?_of_reordered reordered := by
    obtain ⟨_, found, each⟩ :=
      fields?_of_record ["code", "message"] reordered rfl (by decide)
    obtain _ | ⟨status, _ | ⟨message, ⟨⟩⟩⟩ := each
    unfold ofJson? instJsonFormatCallError
    simp [found, ofJson?_of_reordered status, ofJson?_of_reordered message]

/-- An optional field that was left out is none, and one that was written keeps its value, unless a
value could be written as null. -/
theorem optionalField_of_rel {Value : Type} [JsonFormat Value] [LawfulJson Value]
    (proper : ∀ value : Value, toJson value ≠ .null) {value : Option Value} {field : Option Json}
    (related : Option.Rel Reordered (value.map toJson) field) :
    optionalField none field = some value := by
  cases value with
  | none =>
      cases related
      rfl
  | some value =>
      obtain ⟨reordered⟩ := related
      rename_i json
      have present : json ≠ .null := by
        rintro rfl
        generalize written : toJson value = source at reordered
        cases reordered
        exact proper value written
      have read : ofJson? json = some (some value) := by
        unfold ofJson? instJsonFormatOption
        simp [ofJson?_of_reordered reordered]
      exact read

/-- The reply to a write is a record whose error may be missing. -/
theorem toJson_mutationReply (reply : MutationReply) :
    toJson reply = record (filled
      [("uids", some (toJson reply.identifiers)), ("context", some (toJson reply.context)),
        ("error", reply.error.map toJson)]) := by
  obtain ⟨identifiers, context, error⟩ := reply
  cases error <;> rfl

/-- Settings are a record whose deadline may be missing. -/
theorem toJson_settings (settings : Settings) :
    toJson settings = record (filled
      [("deadline_ms", settings.deadlineMs.map toJson),
        ("selection", some (toJson settings.selection)),
        ("shutdown_timeout_ms", some (toJson settings.shutdownTimeoutMs))]) := by
  obtain ⟨deadline, selection, shutdownTimeout⟩ := settings
  cases deadline <;> rfl

instance : LawfulJson MutationReply where
  readable reply := readable_record (by cases reply.error <;> simp [readable])
  ofJson?_of_reordered {reply _} reordered := by
    rw [toJson_mutationReply] at reordered
    obtain ⟨_, found, each⟩ :=
      fields?_of_filled ["uids", "context", "error"] reordered rfl (by decide)
    obtain _ | ⟨⟨identifiers⟩, _ | ⟨⟨context⟩, _ | ⟨error, ⟨⟩⟩⟩⟩ := each
    have errorRead := optionalField_of_rel (by rintro _ ⟨⟩) error
    unfold ofJson? instJsonFormatMutationReply
    simp [found, ofJson?_of_reordered identifiers, ofJson?_of_reordered context, errorRead]

instance : LawfulJson Settings where
  readable settings := readable_record (by cases settings.deadlineMs <;> simp [readable])
  ofJson?_of_reordered {settings _} reordered := by
    rw [toJson_settings] at reordered
    obtain ⟨_, found, each⟩ :=
      fields?_of_filled ["deadline_ms", "selection", "shutdown_timeout_ms"] reordered
        rfl (by decide)
    obtain _ | ⟨deadline, _ | ⟨⟨selection⟩, _ | ⟨⟨shutdownTimeout⟩, ⟨⟩⟩⟩⟩ := each
    have deadlineRead := optionalField_of_rel (by rintro _ ⟨⟩) deadline
    have selectionRead (missing : String) :
        optionalField missing (some _) = some settings.selection :=
      ofJson?_of_reordered selection
    have shutdownTimeoutRead (missing : UInt64) :
        optionalField missing (some _) = some settings.shutdownTimeoutMs :=
      ofJson?_of_reordered shutdownTimeout
    unfold ofJson? instJsonFormatSettings
    simp [found, deadlineRead, selectionRead, shutdownTimeoutRead]

namespace Json

/-- A reply without an error has two fields, and one with an error states it behind them. -/
theorem encode_mutationReply (reply : MutationReply) :
    encode reply =
      "\x7b" ++ ",".intercalate
        (["\"uids\":" ++ encode reply.identifiers, "\"context\":" ++ encode reply.context] ++
          (reply.error.map fun error => "\"error\":" ++ encode error).toList) ++ "\x7d" := by
  have names : encode "uids" ++ ":" = "\"uids\":" ∧ encode "context" ++ ":" = "\"context\":" ∧
      encode "error" ++ ":" = "\"error\":" := by
    decide
  obtain ⟨identifiers, context, error⟩ := reply
  refine (ofList_text_record _).trans ?_
  cases error <;> simp [ofList_fieldText, names]

/-- The deadline stands in the text of settings exactly if there is one. -/
theorem encode_settings (settings : Settings) :
    encode settings =
      "\x7b" ++ ",".intercalate
        ((settings.deadlineMs.map fun deadline => "\"deadline_ms\":" ++ encode deadline).toList ++
          ["\"selection\":" ++ encode settings.selection,
            "\"shutdown_timeout_ms\":" ++ encode settings.shutdownTimeoutMs]) ++ "\x7d" := by
  have names : encode "deadline_ms" ++ ":" = "\"deadline_ms\":" ∧
      encode "selection" ++ ":" = "\"selection\":" ∧
      encode "shutdown_timeout_ms" ++ ":" = "\"shutdown_timeout_ms\":" := by
    decide
  obtain ⟨deadline, selection, shutdownTimeout⟩ := settings
  refine (ofList_text_record _).trans ?_
  cases deadline <;> simp [ofList_fieldText, names]

/-- Each value of the type is read back from its encoding, and from the texts in which the members of
objects stand in another order. -/
def RoundTrips (Value : Type) [JsonFormat Value] : Prop :=
  ∀ value : Value, decode? (encode value) = some value ∧
    ∀ json, (toJson value).Reordered json → decode? (String.ofList json.text) = some value

/-- Types with a lawful form are read back from every text of their values. -/
theorem roundTrips (Value : Type) [JsonFormat Value] [LawfulJson Value] : RoundTrips Value :=
  fun value =>
    ⟨decode?_of_reordered (readable value).reordered, fun _ => decode?_of_reordered⟩

/-- The whole message format survives its texts, and the texts show which optional fields are left
out. -/
theorem message_format_round_trips :
    (RoundTrips Watermark ∧ RoundTrips WireContext ∧ RoundTrips QueryRequest ∧
      RoundTrips QueryReply ∧ RoundTrips Mutation ∧ RoundTrips MutationReply ∧
      RoundTrips SchemaChange ∧ RoundTrips SchemaReply ∧ RoundTrips ServerVersion ∧
      RoundTrips Status ∧ RoundTrips CallError ∧ RoundTrips Settings) ∧
    (∀ reply : MutationReply, encode reply =
      "\x7b" ++ ",".intercalate
        (["\"uids\":" ++ encode reply.identifiers, "\"context\":" ++ encode reply.context] ++
          (reply.error.map fun error => "\"error\":" ++ encode error).toList) ++ "\x7d") ∧
    (∀ settings : Settings, encode settings =
      "\x7b" ++ ",".intercalate
        ((settings.deadlineMs.map fun deadline => "\"deadline_ms\":" ++ encode deadline).toList ++
          ["\"selection\":" ++ encode settings.selection,
            "\"shutdown_timeout_ms\":" ++ encode settings.shutdownTimeoutMs]) ++ "\x7d") := by
  refine ⟨⟨?_, ?_, ?_, ?_, ?_, ?_, ?_, ?_, ?_, ?_, ?_, ?_⟩, encode_mutationReply, encode_settings⟩
  all_goals exact roundTrips _

end Json

end GraphClient
