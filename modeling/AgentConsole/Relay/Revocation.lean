import AgentConsole.Relay.Service

/-! # Revoking a device

`bridge_ws_handler` checks the credential of a connection when it arrives; the
upgrade, the wait for the hello and the registration follow as steps of their
own.  `revoke_device` marks the row, signals the session that is registered at
that moment and writes its audit record before it answers.  The credential of a
connection is the one its device was given, and ids of connections are new. -/

namespace AgentConsole.Relay

open AgentConsole.Lib

/-- Where a `revoke_device` stands; each phase is named after the step made next. -/
inductive RevokePhase where
  | update (owner device : Uuid)
  | forceClose (device : Uuid)
  | audit (device : Uuid)
deriving DecidableEq

/-- The Relay with its Bridge endpoint and its revocations.  `upgrades` has the
connections whose credential was accepted, with the device and the owner read at
that moment; `revoked` is the history of the devices whose revocation was
answered with success. -/
structure Fleet where
  service : Service
  upgrades : FiniteMap Nat (Uuid × Uuid)
  revocations : FiniteMap Nat RevokePhase
  revoked : List Uuid

inductive FleetInput where
  | service (step : ServiceStep)
  | pair (device owner : Uuid)
  | connect (conn : Nat) (device : Uuid) (dbOk : Bool)
  | hello (conn : Nat) (accepted : Bool)
  | revoke (id : Nat) (owner device : Uuid)
  | advance (id : Nat) (dbOk : Bool)

namespace Fleet

def new : Fleet where
  service := .new
  upgrades := ∅
  revocations := ∅
  revoked := []

def devices (s : Fleet) : FiniteMap Uuid DeviceRow := s.service.db.devices

def setDevice (device : Uuid) (row : DeviceRow) (s : Fleet) : Fleet :=
  { s with service := { s.service with
      db := { s.service.db with devices := s.devices.insert device row } } }

/-- A step of another task; connections and rows come through the inputs below. -/
def stepService (step : ServiceStep) (s : Fleet) : Fleet :=
  match step.op with
  | .accept .. | .setDevice .. => s
  | _ => { s with service := s.service.step step }

/-- `bridge_ws_handler`: the row is found by the digest of the credential. -/
def connect (conn : Nat) (device : Uuid) (dbOk : Bool) (s : Fleet) : Fleet :=
  if s.upgrades.contains conn || s.service.bridges.contains conn then s
  else
    match s.devices.get? device with
    | some row =>
      if dbOk && !row.revoked then
        { s with upgrades := s.upgrades.insert conn (device, row.ownerId) }
      else s
    | none => s

/-- The hello of an upgraded connection: `bridge_session` starts, or the socket is
closed. -/
def hello (conn : Nat) (accepted : Bool) (s : Fleet) : Fleet :=
  match s.upgrades.get? conn with
  | some (device, owner) =>
    let s := { s with upgrades := s.upgrades.erase conn }
    if accepted then
      { s with service := s.service.step ⟨.idle, .accept conn device owner⟩ }
    else s
  | none => s

/-- One step of `revoke_device`; a request for a row that is not there, not owned or
revoked already, and a failed statement, are answered with an error. -/
def advance (id : Nat) (dbOk : Bool) (s : Fleet) : Fleet :=
  match s.revocations.get? id with
  | some (.update owner device) =>
    match (s.devices.get? device).filter fun row => row.ownerId == owner && !row.revoked with
    | some row =>
      if dbOk then
        { s.setDevice device { row with revoked := true } with
          revocations := s.revocations.insert id (.forceClose device) }
      else { s with revocations := s.revocations.erase id }
    | none => { s with revocations := s.revocations.erase id }
  | some (.forceClose device) =>
    { s with
      service := { s.service with hub := s.service.hub.forceCloseBridge device }
      revocations := s.revocations.insert id (.audit device) }
  | some (.audit device) =>
    -- the audit record is written or lost, the answer is the same
    { s with revocations := s.revocations.erase id, revoked := device :: s.revoked }
  | none => s

def step (s : Fleet) (i : FleetInput) : Fleet :=
  match i with
  | .service step => s.stepService step
  | .pair device owner =>
    if s.devices.contains device then s else s.setDevice device ⟨owner, false⟩
  | .connect conn device dbOk => s.connect conn device dbOk
  | .hello conn accepted => s.hello conn accepted
  | .revoke id owner device =>
    if s.revocations.contains id then s
    else { s with revocations := s.revocations.insert id (.update owner device) }
  | .advance id dbOk => s.advance id dbOk

def run (inputs : List FleetInput) : Fleet := inputs.foldl step .new

end Fleet

end AgentConsole.Relay
