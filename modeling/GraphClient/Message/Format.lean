import GraphClient.Json.Format
import GraphClient.Message

namespace GraphClient

open Json JsonFormat

instance : JsonFormat Watermark where
  toJson watermark := record [("versions", toJson watermark.versions)]
  ofJson? json :=
    match fields? ["versions"] json with
    | some [some versions] => (ofJson? versions).map Watermark.mk
    | _ => none

instance : JsonFormat WireContext where
  toJson context :=
    record
      [("start_ts", toJson context.startTimestamp),
        ("commit_ts", toJson context.commitTimestamp),
        ("aborted", toJson context.aborted),
        ("keys", toJson context.keys),
        ("watermark", toJson context.watermark)]
  ofJson? json :=
    match fields? ["start_ts", "commit_ts", "aborted", "keys", "watermark"] json with
    | some [some start, some commit, some aborted, some keys, some watermark] => do
      return {
        startTimestamp := ← ofJson? start
        commitTimestamp := ← ofJson? commit
        aborted := ← ofJson? aborted
        keys := ← ofJson? keys
        watermark := ← ofJson? watermark }
    | _ => none

instance : JsonFormat QueryRequest where
  toJson request :=
    record
      [("query", toJson request.text),
        ("vars", toJson request.bindings),
        ("start_ts", toJson request.startTimestamp),
        ("watermark", toJson request.watermark),
        ("read_only", toJson request.readOnly),
        ("best_effort", toJson request.bestEffort)]
  ofJson? json :=
    match fields? ["query", "vars", "start_ts", "watermark", "read_only", "best_effort"] json with
    | some [some query, some bindings, some start, some watermark, some readOnly,
        some bestEffort] => do
      return {
        text := ← ofJson? query
        bindings := ← ofJson? bindings
        startTimestamp := ← ofJson? start
        watermark := ← ofJson? watermark
        readOnly := ← ofJson? readOnly
        bestEffort := ← ofJson? bestEffort }
    | _ => none

instance : JsonFormat QueryReply where
  toJson reply := record [("json", toJson reply.body), ("txn", toJson reply.context)]
  ofJson? json :=
    match fields? ["json", "txn"] json with
    | some [some body, some context] => do
      return { body := ← ofJson? body, context := ← ofJson? context }
    | _ => none

instance : JsonFormat Mutation where
  toJson mutation :=
    record
      [("set_json", toJson mutation.setJson),
        ("delete_json", toJson mutation.deleteJson),
        ("set_nquads", toJson mutation.setTriples),
        ("del_nquads", toJson mutation.deleteTriples),
        ("start_ts", toJson mutation.startTimestamp),
        ("commit_now", toJson mutation.commitNow),
        ("ignore_index_conflict", toJson mutation.ignoreIndexConflict)]
  ofJson? json :=
    match fields? ["set_json", "delete_json", "set_nquads", "del_nquads", "start_ts", "commit_now",
        "ignore_index_conflict"] json with
    | some [some setJson, some deleteJson, some setTriples, some deleteTriples, some start,
        some commitNow, some ignore] => do
      return {
        setJson := ← ofJson? setJson
        deleteJson := ← ofJson? deleteJson
        setTriples := ← ofJson? setTriples
        deleteTriples := ← ofJson? deleteTriples
        startTimestamp := ← ofJson? start
        commitNow := ← ofJson? commitNow
        ignoreIndexConflict := ← ofJson? ignore }
    | _ => none

instance : JsonFormat MutationReply where
  toJson reply :=
    record <|
      [("uids", toJson reply.identifiers), ("context", toJson reply.context)] ++
        (reply.error.map fun error => ("error", toJson error)).toList
  ofJson? json :=
    match fields? ["uids", "context", "error"] json with
    | some [some identifiers, some context, error] => do
      return {
        identifiers := ← ofJson? identifiers
        context := ← ofJson? context
        error := ← optionalField none error }
    | _ => none

instance : JsonFormat SchemaChange where
  toJson change :=
    record
      [("schema", toJson change.schema),
        ("drop_attr", toJson change.dropAttribute),
        ("drop_all", toJson change.dropAll)]
  ofJson? json :=
    match fields? ["schema", "drop_attr", "drop_all"] json with
    | some [some schema, some dropAttribute, some dropAll] => do
      return {
        schema := ← ofJson? schema
        dropAttribute := ← ofJson? dropAttribute
        dropAll := ← ofJson? dropAll }
    | _ => none

instance : JsonFormat SchemaReply where
  toJson reply := record [("data", toJson reply.body)]
  ofJson? json :=
    match fields? ["data"] json with
    | some [some body] => (ofJson? body).map SchemaReply.mk
    | _ => none

instance : JsonFormat ServerVersion where
  toJson version := record [("tag", toJson version.tag)]
  ofJson? json :=
    match fields? ["tag"] json with
    | some [some tag] => (ofJson? tag).map ServerVersion.mk
    | _ => none

/-- A status is its name, or an object that holds nothing under its name. -/
instance : JsonFormat Status where
  toJson status := toJson status.name
  ofJson?
    | .string written => (unwritten? written).bind Status.ofName?
    | .object [(written, .null)] => (unwritten? written).bind Status.ofName?
    | _ => none

instance : JsonFormat CallError where
  toJson error := record [("code", toJson error.status), ("message", toJson error.message)]
  ofJson? json :=
    match fields? ["code", "message"] json with
    | some [some status, some message] => do
      return { status := ← ofJson? status, message := ← ofJson? message }
    | _ => none

end GraphClient
