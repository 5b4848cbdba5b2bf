import AgentConsole.Lib.FiniteMap

/-! # Messages of the console protocol

The Protobuf messages as far as the Relay reads them.  Fields the Relay only
passes on are kept together in one `Blob`, so that two messages are equal
exactly when all their fields are.  `u64` counters are `Nat`; the one place
where 64-bit wrap-around is observable (`mergePair`) reduces explicitly. -/

namespace AgentConsole.Relay

/-- The fields of a message that no function of the Relay reads. -/
abbrev Blob := String

/-- A uuid, kept as its canonical hyphenated text (`Uuid::to_string`), which
always has 36 characters. -/
structure Uuid where
  text : String
  length_text : text.length = 36
deriving DecidableEq

/-- The uuid that ends in the character `c`, for concrete runs. -/
def Uuid.ofLast (c : Char) : Uuid where
  text := "00000000-0000-4000-8000-00000000000" ++ String.singleton c
  length_text := by rw [String.length_append, String.length_singleton]; rfl

instance : Inhabited Uuid := ⟨.ofLast '0'⟩

structure SessionKey where
  deviceId : String
  agentKind : Int
  nativeSessionId : String
  relaySessionUuid : String
deriving DecidableEq

structure SessionSummary where
  sessionKey : Option SessionKey
  rest : Blob
deriving DecidableEq

structure ItemId where
  id : String
  synthetic : Bool
deriving DecidableEq

/-- `item.content`, as far as `classify` tells the variants apart. -/
inductive ItemContent where
  | tokenUsage (rest : Blob)
  | question (rest : Blob)
  | approval (rest : Blob)
  | other (rest : Blob)
deriving DecidableEq

structure Item where
  itemId : Option ItemId
  content : Option ItemContent
  rest : Blob
deriving DecidableEq

structure OutputAppend where
  itemId : Option ItemId
  expectedOffset : Nat
  bytes : List UInt8
  channel : Int
deriving DecidableEq

structure BackgroundCommand where
  commandId : String
  rest : Blob
deriving DecidableEq

inductive DeviceConnection where
  | online
  | offline
  | other (code : Int)
deriving DecidableEq

structure DevicePresence where
  deviceId : String
  connection : DeviceConnection
  lastSeenAt : Option Nat
  degradedReason : String
deriving DecidableEq

/-- The `oneof event` of a `DomainEvent`. -/
inductive Event where
  | turnLifecycle (rest : Blob)
  | itemUpsert (item : Option Item)
  | outputAppend (append : OutputAppend)
  | outputReplace (rest : Blob)
  | outputFinal (rest : Blob)
  | sessionSummaryChanged (summary : SessionSummary)
  | pendingAttentionAdded (rest : Blob)
  | pendingAttentionRemoved (rest : Blob)
  | queueStateChanged (rest : Blob)
  | backgroundCommandChanged (command : Option BackgroundCommand)
  | devicePresenceChanged (presence : Option DevicePresence)
  | capabilityChanged (rest : Blob)
deriving DecidableEq

structure DomainEvent where
  emittedAt : Option Nat
  event : Option Event
deriving DecidableEq

structure EventBatch where
  streamId : String
  events : List DomainEvent
deriving DecidableEq

structure SessionSummaryBatch where
  summaries : List SessionSummary
  snapshot : Bool
deriving DecidableEq

structure Subscribed where
  streamId : String
  streamEpoch : Nat
  baseSequence : Nat
deriving DecidableEq

/-- `subscribe::Target`. -/
inductive SubscribeTarget where
  | list
  | session (key : SessionKey)
deriving DecidableEq

/-- `CommandReceiptStatus`; a number outside the enum is `unspecified`, as
`Receipt::try_from(..).unwrap_or(Unspecified)` reads it. -/
inductive ReceiptStatus where
  | unspecified
  | received
  | acceptedByBridge
  | dispatchedToCodex
  | completed
  | rejected
  | outcomeUnknown
deriving DecidableEq

/-- The statuses after which a command is finished. -/
def ReceiptStatus.terminal : ReceiptStatus → Bool
  | .completed | .rejected | .outcomeUnknown => true
  | _ => false

/-- The stable error codes the modelled handlers set themselves; a code that
is only passed on is `other`. -/
inductive StableErrorCode where
  | unspecified
  | deviceOffline
  | sessionNotFound
  | capabilityUnsupported
  | duplicateRequestMismatch
  | outcomeUnknown
  | resyncRequired
  | internalError
  | other (code : Int)
deriving DecidableEq

structure CommandAccepted where
  requestId : String
  status : ReceiptStatus
  rest : Blob
deriving DecidableEq

structure CommandResult where
  requestId : String
  status : ReceiptStatus
  errorCode : StableErrorCode
  details : List (String × String)
  durationMs : Option Nat
deriving DecidableEq

structure CommandRequest where
  requestId : String
  operation : String
  sessionKey : Option SessionKey
  payloadDigest : String
  rest : Blob
deriving DecidableEq

structure QueryResponse where
  requestId : String
  rest : Blob
deriving DecidableEq

/-- The `oneof payload` of an `Envelope`. -/
inductive Payload where
  | clientHello (rest : Blob)
  | serverHello (rest : Blob)
  | capabilitySnapshot (rest : Blob)
  | devicePresence (presence : DevicePresence)
  | subscribe (target : Option SubscribeTarget)
  | subscribed (sub : Subscribed)
  | unsubscribe (streamId : String)
  | ack (streamId : String) (sequence : Nat)
  | sessionSummaryBatch (batch : SessionSummaryBatch)
  | runtimeSnapshot (snapshot : Blob)
  | eventBatch (batch : EventBatch)
  | resyncRequired (streamId : String)
  | resyncRequest (streamId : String)
  | queryRequest (rest : Blob)
  | queryResponse (response : QueryResponse)
  | commandRequest (request : CommandRequest)
  | commandAccepted (accepted : CommandAccepted)
  | commandResult (result : CommandResult)
  | transferOffer (rest : Blob)
  | transferReady (rest : Blob)
  | transferResult (rest : Blob)
  | heartbeat
  | heartbeatAck
  | protocolError (rest : Blob)
deriving DecidableEq

/-- `Envelope`, without the constant protocol version, the random message id
and the provider extension. -/
structure Envelope where
  correlationId : String
  sentAt : Option Nat
  deviceId : String
  streamId : String
  streamEpoch : Nat
  sequence : Nat
  payload : Option Payload
deriving DecidableEq

/-- `base_envelope`: an envelope outside any stream. -/
def baseEnvelope (now : Nat) (deviceId : String) (payload : Payload) : Envelope where
  correlationId := ""
  sentAt := some now
  deviceId := deviceId
  streamId := ""
  streamEpoch := 0
  sequence := 0
  payload := some payload

def resyncRequiredEnv (now : Nat) (streamId : String) : Envelope :=
  baseEnvelope now "" (.resyncRequired streamId)

/-- `MAX_FRAME_BYTES`: one structured frame is at most 1 MiB. -/
def maxFrameBytes : Nat := 1024 * 1024

/-- What the Protobuf encoder tells the Relay: `encoded_len` of an envelope and
of a bare event.  An encoded envelope is never empty, since it carries the
protocol version, and the short `ResyncRequired` of a stream fits into a frame. -/
structure Codec where
  envelopeLen : Envelope → Nat
  eventLen : Event → Nat
  envelopeLen_pos : ∀ env, 0 < envelopeLen env
  resyncRequired_fits : ∀ now (id : Uuid),
    envelopeLen (resyncRequiredEnv now ("s-" ++ id.text)) ≤ maxFrameBytes

/-- An encoder for concrete runs: everything is one byte long. -/
def Codec.unit : Codec where
  envelopeLen := fun _ => 1
  eventLen := fun _ => 1
  envelopeLen_pos := by simp
  resyncRequired_fits := by simp [maxFrameBytes]

/-- Bytes ready for the wire, represented by the envelope they decode to. -/
structure WireBytes where
  env : Envelope
  len : Nat
deriving DecidableEq

/-- `encode_direct`: a failed encoding gives empty bytes, here `none`. -/
def encodeDirect (codec : Codec) (env : Envelope) : Option WireBytes :=
  if codec.envelopeLen env ≤ maxFrameBytes then some ⟨env, codec.envelopeLen env⟩ else none

/-! ## Addresses of streams -/

/-- `TargetTag`: what a downstream stream shows. -/
inductive TargetTag where
  | list
  | session (device : Uuid) (agentKind : Int) (nativeSessionId : String)
deriving DecidableEq

/-- The key of a downstream stream: its owner and what it shows. -/
abbrev DKey := Uuid × TargetTag

/-- `upstream_stream_id`. -/
def upstreamStreamId (device : Uuid) : TargetTag → String
  | .list => "u-" ++ device.text ++ "-list"
  | .session device agentKind nativeSessionId =>
    "u-" ++ device.text ++ "-sess-" ++ toString agentKind ++ "-" ++ nativeSessionId

def subscribeTargetSession (device : Uuid) (agentKind : Int) (nativeSessionId : String) :
    SubscribeTarget :=
  .session ⟨device.text, agentKind, nativeSessionId, ""⟩

def subscribedEnv (now : Nat) (streamId : String) (epoch baseSequence : Nat)
    (correlation : String) : Envelope :=
  { baseEnvelope now "" (.subscribed ⟨streamId, epoch, baseSequence⟩) with
    correlationId := correlation }

/-- `Hub::upstream_subscribe_env`; its fresh correlation id is not read by the
Relay again. -/
def upstreamSubscribeEnv (now : Nat) (device : Uuid) (target : TargetTag) : Envelope :=
  let payloadTarget : SubscribeTarget :=
    match target with
    | .list => .list
    | .session device agentKind nativeSessionId =>
      subscribeTargetSession device agentKind nativeSessionId
  { baseEnvelope now device.text (.subscribe (some payloadTarget)) with
    streamId := upstreamStreamId device target }

end AgentConsole.Relay
