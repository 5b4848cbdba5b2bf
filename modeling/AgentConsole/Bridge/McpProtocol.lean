import AgentConsole.Bridge.Capabilities
import AgentConsole.Lib.Utf8Decode

/-! # The messages of the ask_user tool server

What one line of a host asks for, and the messages that answer it.  Every message with an id
is answered with that id, either at once or by a call that is still to end. -/

namespace AgentConsole.Bridge.Mcp

open AgentConsole.Lib
open AgentConsole.Bridge.Discovery (trim)

/-! ## Values -/

inductive Number where
  | int (value : Int)
  | float (bits : UInt64)
deriving DecidableEq

/-- `serde_json::Value` -/
inductive Value where
  | null
  | bool (value : Bool)
  | number (value : Number)
  | string (value : String)
  | array (values : List Value)
  | object (fields : List (String × Value))

namespace Value

/-- `value.get(name)` -/
def get : Value → String → Option Value
  | .object fields, name => fields.lookup name
  | _, _ => none

def asStr : Value → Option String
  | .string value => some value
  | _ => none

def isNull : Value → Bool
  | .null => true
  | _ => false

/-- `value.pointer("/params/name")` -/
def param (value : Value) (name : String) : Option Value :=
  (value.get "params").bind (·.get name)

def nat (value : Nat) : Value := .number (.int value)

end Value

/-- `serde_json::from_str` and `Value::to_string` -/
structure Serde where
  fromStr : List Char → Option Value
  toText : Value → String

/-! ## Answers -/

def mcpProtocolVersion : String := "2024-11-05"
def askUserTool : String := "agent_console.ask_user"
def mcpMaxLine : Nat := 256 * 1024

def rpcResult (id result : Value) : Value :=
  .object [("jsonrpc", .string "2.0"), ("id", id), ("result", result)]

def rpcError (id : Value) (code : Int) (message : String) : Value :=
  .object [("jsonrpc", .string "2.0"), ("id", id),
    ("error", .object [("code", .number (.int code)), ("message", .string message)])]

/-- The id a message answers to. -/
def answeredId (message : Value) : Option Value :=
  (message.get "id").filter (!·.isNull)

theorem answeredId_rpcResult {id : Value} (result : Value) (given : id.isNull = false) :
    answeredId (rpcResult id result) = some id := by
  have found : (rpcResult id result).get "id" = some id := rfl
  rw [answeredId, found, Option.filter_some, given]
  rfl

theorem answeredId_rpcError {id : Value} (code : Int) (message : String) :
    answeredId (rpcError id code message) = if id.isNull then none else some id := by
  have found : (rpcError id code message).get "id" = some id := rfl
  rw [answeredId, found, Option.filter_some]
  cases id.isNull <;> rfl

/-! ## Questions -/

structure AskPayload where
  question : String
  options : Option (List String)
  allowFreeText : Option Bool

structure AskRequest where
  question : String
  options : List String
  allowFreeText : Bool
  callId : Option String

def maxQuestionChars : Nat := 2000
def maxOptionChars : Nat := 200
def maxOptions : Nat := 8

def toolsListing : Value :=
  .object [("tools", .array [.object [
    ("name", .string askUserTool),
    ("description", .string ("Ask the Agent Console user a question with limited options; " ++
      "returns answered/cancelled/expired.")),
    ("inputSchema", .object [
      ("type", .string "object"),
      ("properties", .object [
        ("question", .object [("type", .string "string"), ("maxLength", .nat maxQuestionChars)]),
        ("options", .object [("type", .string "array"), ("maxItems", .nat maxOptions),
          ("items", .object [("type", .string "string"), ("maxLength", .nat maxOptionChars)])]),
        ("allow_free_text", .object [("type", .string "boolean"), ("default", .bool true)])]),
      ("required", .array [.string "question"])])]])]

/-- `Option<Vec<String>>`; `none` outside where the value has another type. -/
def readOptions : Option Value → Option (Option (List String))
  | none | some .null => some none
  | some (.array values) => (values.mapM Value.asStr).map some
  | some _ => none

/-- `Option<bool>` -/
def readFlag : Option Value → Option (Option Bool)
  | none | some .null => some none
  | some (.bool value) => some (some value)
  | some _ => none

/-- `serde_json::from_value::<AskPayload>`: by the names of an object's fields or by the places
of an array's elements. -/
def AskPayload.ofValue : Value → Option AskPayload
  | .object fields => do
    let question ← (fields.lookup "question").bind Value.asStr
    let options ← readOptions (fields.lookup "options")
    let allowFreeText ← readFlag (fields.lookup "allow_free_text")
    return ⟨question, options, allowFreeText⟩
  | .array values => do
    let question ← values[0]?.bind Value.asStr
    let options ← readOptions values[1]?
    let allowFreeText ← readFlag values[2]?
    if 3 < values.length then none else return ⟨question, options, allowFreeText⟩
  | _ => none

def AskRequest.validate (ask : AskRequest) : Except String Unit :=
  if (trim ask.question.toList).isEmpty then .error "question is empty"
  else if maxQuestionChars < ask.question.length then
    .error ("question exceeds " ++ toString maxQuestionChars ++ " chars")
  else if maxOptions < ask.options.length then
    .error ("more than " ++ toString maxOptions ++ " options")
  else if ask.options.any fun option => maxOptionChars < option.length then
    .error ("option exceeds " ++ toString maxOptionChars ++ " chars")
  else .ok ()

section Messages

variable (serde : Serde)

def rpcIdKey (id : Value) : String := serde.toText id

def idOf (message : Value) : Value := (message.get "id").getD .null

def methodOf (message : Value) : String := ((message.get "method").bind Value.asStr).getD ""

def AskPayload.request (payload : AskPayload) (id : Value) : AskRequest where
  question := payload.question
  options := payload.options.getD []
  allowFreeText := payload.allowFreeText.getD true
  callId := some (serde.toText id)

/-- The question of a `tools/call`, or the message that refuses it. -/
def buildAskInvoke (message : Value) : Except Value AskRequest :=
  match message.param "arguments" with
  | none => .error (rpcError (idOf message) (-32602) "tools/call requires params.arguments")
  | some arguments =>
    match AskPayload.ofValue arguments with
    | none => .error (rpcError (idOf message) (-32602) "invalid arguments for agent_console.ask_user")
    | some payload =>
      match (payload.request serde (idOf message)).validate with
      | .error reason => .error (rpcError (idOf message) (-32602) ("invalid ask: " ++ reason))
      | .ok () => .ok (payload.request serde (idOf message))

/-- What a line makes the server do. -/
inductive Reading where
  | ignore
  | reply (message : Value)
  | call (id : Value) (ask : AskRequest)
  | cancel (requestId : Value)

def initializeResult (message : Value) : Value :=
  let clientVersion :=
    ((message.param "protocolVersion").bind Value.asStr).getD mcpProtocolVersion
  .object [("protocolVersion", .string clientVersion),
    ("capabilities", .object [("tools", .object [("listChanged", .bool false)])]),
    ("serverInfo", .object [("name", .string "agent-console-bridge"),
      ("version", .string "0.1.0")])]

/-- `match (method, has_id)` of a message with an id -/
def readRequest (method : String) (id message : Value) : Reading :=
  if method = "initialize" then .reply (rpcResult id (initializeResult message))
  else if method = "ping" then .reply (rpcResult id (.object []))
  else if method = "tools/list" then .reply (rpcResult id toolsListing)
  else if method = "tools/call" then
    match buildAskInvoke serde message with
    | .ok ask => .call id ask
    | .error response => .reply response
  else .reply (rpcError id (-32601) ("method not found: " ++ method))

/-- `match (method, has_id)` of a message without one -/
def readNotification (method : String) (message : Value) : Reading :=
  if method = "notifications/cancelled" then
    match (message.param "requestId").filter (!·.isNull) with
    | some requestId => .cancel requestId
    | none => .ignore
  else .ignore

def readMessage (message : Value) : Reading :=
  if (idOf message).isNull then readNotification (methodOf message) message
  else readRequest serde (methodOf message) (idOf message) message

/-- A line as `read_line` gives it; `none` where the line is no text, which ends the server. -/
def readLine (line : List UInt8) : Option Reading :=
  if !Utf8.isValid line then none
  else if mcpMaxLine < line.length then some .ignore
  else
    let trimmed := trim (Utf8.lossy line)
    if trimmed.isEmpty then some .ignore
    else
      match serde.fromStr trimmed with
      | none => some (.reply (rpcError .null (-32700) "parse error"))
      | some message => some (readMessage serde message)

/-! ## Requests -/

/-- The message of a line within the limit. -/
def messageOf (line : List UInt8) : Option Value :=
  if Utf8.isValid line ∧ line.length ≤ mcpMaxLine ∧ trim (Utf8.lossy line) ≠ [] then
    serde.fromStr (trim (Utf8.lossy line))
  else none

/-- The id of the request that a line within the limit is. -/
def requestId (line : List UInt8) : Option Value :=
  ((messageOf serde line).bind (·.get "id")).filter (!·.isNull)

/-- The id that must be answered because of what a line makes the server do. -/
def Reading.requestId : Reading → Option Value
  | .ignore | .cancel _ => none
  | .reply message => answeredId message
  | .call id _ => some id

variable {serde} {message response : Value} {line : List UInt8}

theorem answeredId_of_buildAskInvoke (refused : buildAskInvoke serde message = .error response) :
    answeredId response = if (idOf message).isNull then none else some (idOf message) := by
  unfold buildAskInvoke at refused
  split at refused
  · cases refused
    exact answeredId_rpcError _ _
  · split at refused
    · cases refused
      exact answeredId_rpcError _ _
    · split at refused
      · cases refused
        exact answeredId_rpcError _ _
      · cases refused

theorem requestId_idOf (message : Value) :
    (message.get "id").filter (!·.isNull) =
      if (idOf message).isNull then none else some (idOf message) := by
  unfold idOf
  cases message.get "id" with
  | none => rfl
  | some id =>
    rw [Option.filter_some, Option.getD_some]
    cases id.isNull <;> rfl

theorem readNotification_requestId (method : String) (message : Value) :
    (readNotification method message).requestId = none := by
  unfold readNotification
  split
  · split <;> rfl
  · rfl

theorem readRequest_requestId (method : String) (given : (idOf message).isNull = false) :
    (readRequest serde method (idOf message) message).requestId = some (idOf message) := by
  unfold readRequest
  split
  · exact answeredId_rpcResult _ given
  · split
    · exact answeredId_rpcResult _ given
    · split
      · exact answeredId_rpcResult _ given
      · split
        · split
          · rfl
          · rename_i response refused
            show answeredId response = some (idOf message)
            rw [answeredId_of_buildAskInvoke refused, given]
            rfl
        · show answeredId (rpcError _ _ _) = some (idOf message)
          rw [answeredId_rpcError, given]
          rfl

/-- A message is answered with its id, at once or by the call it starts. -/
theorem readMessage_requestId (message : Value) :
    (readMessage serde message).requestId = (message.get "id").filter (!·.isNull) := by
  rw [requestId_idOf]
  unfold readMessage
  cases given : (idOf message).isNull with
  | true => exact readNotification_requestId _ message
  | false => exact readRequest_requestId _ given

/-- A line is answered with the id of its request. -/
theorem readLine_requestId {reading : Reading} (read : readLine serde line = some reading) :
    reading.requestId = requestId serde line := by
  unfold readLine at read
  unfold requestId messageOf
  cases valid : Utf8.isValid line with
  | false =>
    rw [valid] at read
    cases read
  | true =>
    rw [valid] at read
    rcases Nat.lt_or_ge mcpMaxLine line.length with long | short
    · simp only [Bool.not_true, Bool.false_eq_true, if_false, if_pos long, Option.some.injEq] at read
      rw [if_neg (by omega), ← read]
      rfl
    · cases blank : (trim (Utf8.lossy line)).isEmpty with
      | true =>
        have empty : trim (Utf8.lossy line) = [] := List.isEmpty_iff.mp blank
        simp only [Bool.not_true, Bool.false_eq_true, if_false, if_neg (Nat.not_lt.mpr short), blank,
          if_true, Option.some.injEq] at read
        rw [if_neg (fun held => held.2.2 empty), ← read]
        rfl
      | false =>
        have present : trim (Utf8.lossy line) ≠ [] := by simpa [List.isEmpty_iff] using blank
        simp only [Bool.not_true, Bool.false_eq_true, if_false, if_neg (Nat.not_lt.mpr short),
          blank] at read
        rw [if_pos ⟨rfl, short, present⟩]
        cases parsed : serde.fromStr (trim (Utf8.lossy line)) with
        | none =>
          rw [parsed] at read
          cases read
          exact answeredId_rpcError (-32700) "parse error"
        | some message =>
          rw [parsed] at read
          cases read
          exact readMessage_requestId message

theorem requestId_of_unreadable (broken : readLine serde line = none) :
    requestId serde line = none := by
  unfold requestId messageOf
  rw [if_neg]
  · rfl
  · intro held
    unfold readLine at broken
    rw [held.1] at broken
    simp only [Bool.not_true, Bool.false_eq_true, if_false, if_neg (Nat.not_lt.mpr held.2.1)] at broken
    split at broken
    · cases broken
    · split at broken <;> cases broken

/-- The id of a call is an id. -/
theorem given_of_call {id : Value} {ask : AskRequest}
    (read : readLine serde line = some (.call id ask)) : id.isNull = false := by
  have same := readLine_requestId read
  have kept : requestId serde line = some id := same.symm
  exact (by simpa using (Option.filter_eq_some_iff.mp kept).2)

end Messages

end AgentConsole.Bridge.Mcp
