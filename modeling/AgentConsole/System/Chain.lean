import AgentConsole.Bridge.GatewayOnce
import AgentConsole.Relay.Service

/-! # From the web client to the command gateways

The Relay and the Bridges, as far as a command passes through them.  A client sends a
command again after a reconnect, or when its user tries again; to the Relay each copy is
a request of its own.  A forwarded command is read by the Bridge of its device, decoded
and submitted to the command gateway.  It can be read late, or never, and more than once:
the receipts of the Relay expire, and a copy that comes after that is forwarded again.

The digests and `command_request_from_proto` are parameters. -/

namespace AgentConsole.System

open AgentConsole.Lib AgentConsole.Relay

/-! ## Copies -/

/-- The two messages are copies of one request: the digest the browser puts in is not
looked at. -/
def sameRequest (a b : CommandRequest) : Bool :=
  { a with payloadDigest := "" } = { b with payloadDigest := "" }

/-- A command that was handed over to a Bridge, with the owner who sent it. -/
structure Forwarded where
  device : Uuid
  owner : Uuid
  request : CommandRequest
deriving DecidableEq

/-- The Relay and the gateways of its devices.  `origins` has the messages that became
submissions, with their numbers, and `late` the handlers of copies that arrived when the
request had been executed. -/
structure Chain where
  relay : Service
  gateways : Uuid → Bridge.Gateway
  forwarded : List Forwarded
  origins : List (Forwarded × Nat)
  late : List Nat

inductive ChainInput where
  | relay (step : ServiceStep)
  | read (index : Nat) (caps : Bridge.Capabilities)
  | gateway (device : Uuid) (input : Bridge.Gateway.Input)

/-! ## The client -/

/-- The commands a page has sent, with whether the Bridge has accepted them, and the
status it shows for each. -/
structure Page where
  pending : FiniteMap String Bool
  shown : FiniteMap String ReceiptStatus

namespace Page

/-- `receiptStatusFromProto` -/
def statusFromProto : ReceiptStatus → ReceiptStatus
  | .unspecified => .received
  | status => status

/-- `#handleReceipt` -/
def handleReceipt (requestId : String) (status : ReceiptStatus) (page : Page) : Page :=
  let status := statusFromProto status
  let pending :=
    if status = .acceptedByBridge then page.pending.modify requestId fun _ => true
    else page.pending
  { pending := if status.terminal then pending.erase requestId else pending
    shown := page.shown.insert requestId status }

end Page

/-! ## Steps -/

namespace Chain

def new : Chain where
  relay := .new
  gateways := fun _ => {}
  forwarded := []
  origins := []
  late := []

/-- A copy of the request was executed by the gateway it was forwarded to. -/
def executed (owner : Uuid) (request : CommandRequest) (s : Chain) : Bool :=
  s.origins.any fun origin =>
    origin.1.owner = owner && sameRequest origin.1.request request &&
      (s.gateways origin.1.device).executed.any fun e => e.1 == origin.2

/-- The command that a step of the Relay hands over. -/
def hands (step : ServiceStep) (s : Chain) : List Forwarded :=
  match step.op with
  | .command id =>
    match s.relay.commands.get? id with
    | some task =>
      match task.phase with
      | .send device =>
        if (s.relay.step step).dispatched = s.relay.dispatched then []
        else [⟨device, task.ident.ownerId, task.request⟩]
      | _ => []
    | none => []
  | _ => []

/-- The handler that a step of the Relay starts for a late copy. -/
def startsLate (step : ServiceStep) (s : Chain) : List Nat :=
  match step.op with
  | .request id conn request =>
    match (s.relay.hub.browsers.get? conn).map (·.ident) with
    | some ident =>
      if !s.relay.commands.contains id && s.executed ident.ownerId request then [id] else []
    | none => []
  | _ => []

variable (sha256 : CommandRequest → String) (digest : Bridge.CommandPayload → String)
  (decode : CommandRequest → Bridge.Capabilities → Option Bridge.CommandRequest)

def withDigest (step : ServiceStep) : ServiceStep :=
  { step with env := { step.env with sha256 } }

def submit (sent : Forwarded) (req : Bridge.CommandRequest) (caps : Bridge.Capabilities)
    (s : Chain) : Chain :=
  let gateway := s.gateways sent.device
  { s with
    gateways := Function.update s.gateways sent.device (gateway.step digest (.submit req caps))
    origins := (sent, gateway.spawned) :: s.origins }

def step (s : Chain) (i : ChainInput) : Chain :=
  match i with
  | .relay step =>
    let step := withDigest sha256 step
    { s with
      relay := s.relay.step step
      forwarded := s.forwarded ++ s.hands step
      late := s.startsLate step ++ s.late }
  | .read index caps =>
    match s.forwarded[index]? with
    | some sent =>
      match decode sent.request caps with
      | some req => s.submit digest sent req caps
      -- what cannot be decoded is refused before the gateway
      | none => s
    | none => s
  | .gateway _ (.submit ..) => s
  | .gateway device input =>
    { s with
      gateways := Function.update s.gateways device ((s.gateways device).step digest input) }

def run (inputs : List ChainInput) : Chain := inputs.foldl (step sha256 digest decode) new

end Chain

end AgentConsole.System
