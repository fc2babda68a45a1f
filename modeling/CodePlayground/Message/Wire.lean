import CodePlayground.Json.Value
import CodePlayground.Message.Basic

/-!
The wire form of messages: a JSON object with the message's kind under `type` and its other fields
beside it. Reading takes the fields in any order, skips unknown ones and refuses repeated ones; it
also takes an array of the kind and the fields in order.
-/

namespace CodePlayground.Wire

/-- A message's kind and its fields in order. -/
structure Record where
  kind : String
  fields : List (String × Json)

def Record.toJson (record : Record) : Json :=
  .object (("type", .text record.kind) :: record.fields)

def idJson (id : RequestId) : Json :=
  Json.nat id.value.toNat

def hostRecord : HostMessage → Record
  | .execute id data => ⟨"execute", [("id", idJson id), ("data", .text data)]⟩

def contextRecord : ContextMessage → Record
  | .initialized => ⟨"initialized", []⟩
  | .initFailed error => ⟨"init_failed", [("error", .text error)]⟩
  | .output text => ⟨"output", [("text", .text text)]⟩
  | .execStart id => ⟨"exec_start", [("id", idJson id)]⟩
  | .execFinished id => ⟨"exec_finished", [("id", idJson id)]⟩
  | .execError id error => ⟨"exec_error", [("id", idJson id), ("error", .text error)]⟩

def encodeHost (message : HostMessage) : String :=
  (hostRecord message).toJson.render

def encodeContext (message : ContextMessage) : String :=
  (contextRecord message).toJson.render

/-- The value of the one field of that name. -/
def only? (name : String) (fields : List (String × Json)) : Option Json :=
  match fields.filter (·.1 == name) with
  | [(_, value)] => some value
  | _ => none

/-- The values of the named fields, in the order of the names. -/
def inOrder? (fields : List (String × Json)) : List String → Option (List Json)
  | [] => some []
  | name :: names =>
    match only? name fields, inOrder? fields names with
    | some value, some values => some (value :: values)
    | _, _ => none

/-- The kind of a message in either form, and its field values in the order that `names` gives for
that kind. -/
def open? (names : String → Option (List String)) : Json → Option (String × List Json)
  | .object fields =>
    match only? "type" fields with
    | some (.text kind) => do
      let values ← inOrder? fields (← names kind)
      return (kind, values)
    | _ => none
  | .array (.text kind :: values) => do
    if values.length = (← names kind).length then return (kind, values) else none
  | _ => none

def id? : Json → Option RequestId
  | .number literal => (Json.Number.natural? literal).map fun n => ⟨n.toUInt64⟩
  | _ => none

def text? : Json → Option String
  | .text value => some value
  | _ => none

def hostNames : String → Option (List String)
  | "execute" => some ["id", "data"]
  | _ => none

def contextNames : String → Option (List String)
  | "initialized" => some []
  | "init_failed" => some ["error"]
  | "output" => some ["text"]
  | "exec_start" => some ["id"]
  | "exec_finished" => some ["id"]
  | "exec_error" => some ["id", "error"]
  | _ => none

def hostOfParts? : String × List Json → Option HostMessage
  | ("execute", [id, data]) => do return .execute (← id? id) (← text? data)
  | _ => none

def contextOfParts? : String × List Json → Option ContextMessage
  | ("initialized", []) => some .initialized
  | ("init_failed", [error]) => (text? error).map .initFailed
  | ("output", [text]) => (text? text).map .output
  | ("exec_start", [id]) => (id? id).map .execStart
  | ("exec_finished", [id]) => (id? id).map .execFinished
  | ("exec_error", [id, error]) => do return .execError (← id? id) (← text? error)
  | _ => none

def decodeHost? (text : String) : Option HostMessage :=
  ((Json.parse? text).bind (open? hostNames)).bind hostOfParts?

def decodeContext? (text : String) : Option ContextMessage :=
  ((Json.parse? text).bind (open? contextNames)).bind contextOfParts?

end CodePlayground.Wire
