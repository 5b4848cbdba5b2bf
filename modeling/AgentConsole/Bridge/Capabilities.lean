import AgentConsole.Bridge.Gateway

/-! # The capability probe

What the Bridge may write to a Desktop follows from four kinds of evidence: the version
report, the outcome of the handshake, the matrix of write methods that were tried on
that version, and what the catalog can read.  The adapter probes once when it starts and
again each time it attaches.

Settings and transfer limits of a `CapabilitySet` are left out. -/

namespace AgentConsole.Bridge

/-! ## Version reports -/

namespace Discovery

/-- `char::is_whitespace` -/
def isWhitespace (c : Char) : Bool :=
  let n := c.toNat
  (9 ≤ n ∧ n ≤ 13) || n = 0x20 || n = 0x85 || n = 0xA0 || n = 0x1680 ||
    (0x2000 ≤ n ∧ n ≤ 0x200A) || n = 0x2028 || n = 0x2029 || n = 0x202F || n = 0x205F ||
    n = 0x3000

def trimStart (text : List Char) : List Char := text.dropWhile isWhitespace

def trim (text : List Char) : List Char := (trimStart (trimStart text).reverse).reverse

def stripPrefix (label text : List Char) : Option (List Char) :=
  if label.isPrefixOf text then some (text.drop label.length) else none

/-- The output of `codex --version` without its label. -/
def normalizedVersion (version : String) : String :=
  let v := trim version.toList
  .ofList (((stripPrefix "codex-cli".toList v).map trimStart).getD v)

def verifiedVersions : List String := ["0.153.0-alpha.5", "0.153.1", "0.153.4"]

def versionIsVerified (version : String) : Bool :=
  verifiedVersions.contains (normalizedVersion version)

end Discovery

/-! ## Evidence -/

inductive ProbeResult where
  | notProbed | passed | failed
  deriving DecidableEq, Repr

structure WriteMethodProbes where
  startTurn : ProbeResult := .notProbed
  steerTurn : ProbeResult := .notProbed
  interruptTurn : ProbeResult := .notProbed
  /-- answers to questions and decisions on approvals -/
  answerQuestion : ProbeResult := .notProbed
  updateSettings : ProbeResult := .notProbed
  deriving DecidableEq, Repr

def WriteMethodProbes.allPassed (wm : WriteMethodProbes) : Bool :=
  wm.startTurn = .passed && wm.steerTurn = .passed && wm.interruptTurn = .passed &&
    wm.answerQuestion = .passed && wm.updateSettings = .passed

def WriteMethodProbes.anyPassed (wm : WriteMethodProbes) : Bool :=
  [wm.startTurn, wm.steerTurn, wm.interruptTurn, wm.answerQuestion, wm.updateSettings].contains
    .passed

/-- `REAL_DESKTOP_VERIFIED_CORE_OPS` -/
def realDesktopVerifiedCoreOps : WriteMethodProbes where
  startTurn := .passed
  steerTurn := .passed
  interruptTurn := .passed

def verifiedWriteProbes (versionReport : Option String) : WriteMethodProbes :=
  match versionReport.map Discovery.normalizedVersion with
  | some "0.153.1" | some "0.153.4" => realDesktopVerifiedCoreOps
  | _ => {}

structure CapabilityProbeInput where
  versionReport : Option String := none
  versionVerified : Bool := false
  confirmedIncompatible : Bool := false
  ipcHandshakeOk : Bool := false
  ownerConfirmed : Bool := false
  writeMethods : WriteMethodProbes := {}
  catalogSessionsListable : Bool := false
  catalogHistoryReadable : Bool := false
  deriving DecidableEq, Repr

/-! ## The probe -/

inductive ControlMode where
  | unavailable | readOnly | limitedControl | fullControl
  deriving DecidableEq, Repr

inductive CompatibilityState where
  | verified | degraded | unsupported
  deriving DecidableEq, Repr

structure CapabilitySet where
  controlMode : ControlMode
  compatibilityState : CompatibilityState
  codexVersion : Option String
  supportedOperations : List Operation
  deriving DecidableEq, Repr

/-- What the gates read of it. -/
def CapabilitySet.capabilities (set : CapabilitySet) : Capabilities where
  supported := set.supportedOperations
  readOnly := set.controlMode = .readOnly

namespace CapabilityProbeInput

def writesOpen (input : CapabilityProbeInput) : Bool :=
  input.versionVerified && input.ipcHandshakeOk && input.ownerConfirmed

/-- The operations that one write method opens. -/
def opened (input : CapabilityProbeInput) (method : WriteMethodProbes → ProbeResult)
    (operations : List Operation) : List Operation :=
  if input.writesOpen ∧ method input.writeMethods = .passed then operations else []

/-- A queued turn is sent by start-turn, so the queue opens with it. -/
def supportedOperations (input : CapabilityProbeInput) : List Operation :=
  input.opened (·.startTurn) [.startTurn, .queueNextTurn] ++
  input.opened (·.steerTurn) [.steerTurn] ++
  input.opened (·.interruptTurn) [.interruptTurn] ++
  input.opened (·.answerQuestion) [.answerQuestion, .submitApproval] ++
  input.opened (·.updateSettings) [.updateSettings]

def compatibilityState (input : CapabilityProbeInput) : CompatibilityState :=
  if input.confirmedIncompatible then .unsupported
  else if input.versionVerified then .verified
  else .degraded

def controlMode (input : CapabilityProbeInput) : ControlMode :=
  if ¬ (input.ipcHandshakeOk ∨ input.catalogSessionsListable ∨ input.catalogHistoryReadable) then
    .unavailable
  else if input.writesOpen ∧ input.writeMethods.allPassed then .fullControl
  else if input.writesOpen ∧ input.writeMethods.anyPassed then .limitedControl
  else .readOnly

def probe (input : CapabilityProbeInput) : CapabilitySet where
  controlMode := input.controlMode
  compatibilityState := input.compatibilityState
  codexVersion := input.versionReport
  supportedOperations := input.supportedOperations

theorem writesOpen_of_mem_opened {input : CapabilityProbeInput}
    {method : WriteMethodProbes → ProbeResult} {operations : List Operation} {op : Operation}
    (member : op ∈ input.opened method operations) : input.writesOpen = true := by
  by_contra closed
  simp [opened, closed] at member

/-- A probe that enables any write has seen a verified version. -/
theorem writesOpen_of_supported {input : CapabilityProbeInput} {op : Operation}
    (supported : op ∈ input.probe.supportedOperations) : input.writesOpen = true := by
  simp only [probe, supportedOperations, List.mem_append] at supported
  rcases supported with (((starts | steers) | interrupts) | answers) | settings
  · exact writesOpen_of_mem_opened starts
  · exact writesOpen_of_mem_opened steers
  · exact writesOpen_of_mem_opened interrupts
  · exact writesOpen_of_mem_opened answers
  · exact writesOpen_of_mem_opened settings

end CapabilityProbeInput

/-! ## Probing at a connection -/

/-- The part of the adapter's configuration and catalog that the probe looks at. -/
structure AdapterConfig where
  versionReport : Option String := none
  /-- whether there is a binary to ask for its version again -/
  versionBinary : Bool := false
  writeMethodProbes : WriteMethodProbes := {}
  catalogSessionsListable : Bool := false
  catalogHistoryReadable : Bool := false
  deriving DecidableEq, Repr

namespace AdapterConfig

/-- `capability_probe_input`; no owner is asked for here. -/
def capabilityProbeInput (config : AdapterConfig) (versionReport : Option String)
    (writeMethods : WriteMethodProbes) (ipcConnected : Bool) : CapabilityProbeInput where
  versionReport := versionReport
  versionVerified := (versionReport.map Discovery.versionIsVerified).getD false
  confirmedIncompatible := false
  ipcHandshakeOk := ipcConnected
  ownerConfirmed := ipcConnected
  writeMethods := writeMethods
  catalogSessionsListable := config.catalogSessionsListable
  catalogHistoryReadable := config.catalogHistoryReadable

/-- The probe at the start, which trusts the configured version. -/
def startInput (config : AdapterConfig) (ipcConnected : Bool) : CapabilityProbeInput :=
  config.capabilityProbeInput config.versionReport config.writeMethodProbes ipcConnected

/-- The probe of `try_attach`.  `discovered` is what the version binary answers, `none`
when asking it has failed. -/
def attachInput (config : AdapterConfig) (discovered : Option String) : CapabilityProbeInput :=
  if config.versionBinary then
    match discovered with
    | none => config.capabilityProbeInput none {} true
    | some fresh =>
      let unchanged := match config.versionReport with
        | some configured =>
          decide (Discovery.normalizedVersion fresh = Discovery.normalizedVersion configured)
        | none => true
      let writeMethods := if unchanged then config.writeMethodProbes else {}
      config.capabilityProbeInput (some fresh) writeMethods true
  else config.capabilityProbeInput config.versionReport config.writeMethodProbes true

theorem exists_of_attachInput (config : AdapterConfig) (discovered : Option String) :
    ∃ report writeMethods,
      config.attachInput discovered = config.capabilityProbeInput report writeMethods true := by
  unfold attachInput
  split
  · split <;> exact ⟨_, _, rfl⟩
  · exact ⟨_, _, rfl⟩

theorem verified_of_capabilityProbeInput {config : AdapterConfig} {report : Option String}
    {writeMethods : WriteMethodProbes} {ipcConnected : Bool}
    (verified : (config.capabilityProbeInput report writeMethods ipcConnected).versionVerified) :
    ∃ version, report = some version ∧ Discovery.versionIsVerified version = true := by
  cases report with
  | none => simp [capabilityProbeInput] at verified
  | some version => exact ⟨version, rfl, by simpa [capabilityProbeInput] using verified⟩

end AdapterConfig

/-- The version a probe was made for is in the table of verified ones. -/
def CapabilityProbeInput.Verified (input : CapabilityProbeInput) : Prop :=
  ∃ version, input.versionReport = some version ∧ Discovery.versionIsVerified version = true

/-- No other version opens a write. -/
theorem AdapterConfig.verified_of_supported {config : AdapterConfig} {report : Option String}
    {writeMethods : WriteMethodProbes} {ipcConnected : Bool} {op : Operation}
    (supported : op ∈
      (config.capabilityProbeInput report writeMethods ipcConnected).probe.supportedOperations) :
    (config.capabilityProbeInput report writeMethods ipcConnected).Verified := by
  have opened := CapabilityProbeInput.writesOpen_of_supported supported
  simp only [CapabilityProbeInput.writesOpen, Bool.and_eq_true] at opened
  exact verified_of_capabilityProbeInput opened.1.1

end AgentConsole.Bridge
