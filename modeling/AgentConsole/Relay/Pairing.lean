import AgentConsole.Bridge.Capabilities
import AgentConsole.Lib.FiniteMap
import AgentConsole.Lib.Run
import AgentConsole.Relay.Protocol

/-! # Pairing a device

A Bridge registers a challenge and shows a six-digit code, a browser looks the
code up and approves it, the Bridge claims the credential.  Each database
statement is one atomic step and any other handler may run between two of them;
a transaction takes effect at its commit, its row lock keeping the row as its
update found it.  The rate limiter and the identity of the browser are decided
before the handlers below start. -/

namespace AgentConsole.Relay

open AgentConsole.Lib

/-! ## Rows -/

structure DeviceInfo where
  deviceName : Option String
  platform : Option String
  arch : Option String
  bridgeVersion : Option String
deriving DecidableEq

/-- A row of `pairing_challenges`. -/
structure ChallengeRow where
  ownerId : Option Uuid
  challengeDigest : String
  shortCodeDigest : String
  info : DeviceInfo
  expiresAt : Nat
  attemptCount : Nat
  registeredAt : Option Nat
  approvedAt : Option Nat
  credentialDeliveredAt : Option Nat
  consumedAt : Option Nat
  createdAt : Nat
deriving DecidableEq

/-- A row of `devices` as a claim inserts it. -/
structure PairedDevice where
  ownerId : Uuid
  displayName : String
  platform : String
  arch : String
  bridgeVersion : String
  credentialDigest : String
deriving DecidableEq

/-! ## Requests and responses -/

structure RegisterBody where
  challenge : String
  deviceName : String
  platform : String
  arch : String
  bridgeVersion : String

structure ApproveBody where
  shortCode : String
  challengeId : Option Nat
deriving DecidableEq

inductive PairingCode where
  | authRequired
  | sessionNotFound
  | duplicateRequestMismatch
  | approvalExpired
  | rateLimited
  | internalError
deriving DecidableEq

/-- What the handlers answer: `err` with the status, the stable code, the message
and the reason, or a body with status 200 (204 for `noContent`). -/
inductive PairingResponse where
  | err (status : Nat) (code : PairingCode) (message reason : String)
  | registered (challengeId : Nat) (shortCode : String) (expiresAt : Nat)
  | found (challengeId : Nat) (info : DeviceInfo) (expiresAt : Nat)
  | approved (challengeId approvedAt : Nat)
  | pending
  | ready (deviceId : Nat) (deviceCredential : String)
  | noContent
deriving DecidableEq

/-- A credential on its way to the caller of `claim`; `checkedAt` and `began` are
the readings of the two clocks the expiry was compared with. -/
structure Handout where
  challengeId : Nat
  presented : String
  checkedAt : Nat
  began : Nat
  deviceId : Nat
  deviceCredential : String
deriving DecidableEq

/-- Where a handler stands; each constructor is named after the step made next. -/
inductive PairingTask where
  | lookup (shortCode : String)
  | lookupInfo (challengeId expiresAt : Nat)
  | approve (owner : Uuid) (body : ApproveBody)
  | countAttempt (challengeId : Nat)
  | approveUpdate (owner : Uuid) (body : ApproveBody)
  | approveClassify (codeDigest : String)
  | claim (challengeId : Nat) (challenge : String)
  | claimBegin (challengeId : Nat) (challenge : String) (checkedAt : Nat)
  | claimDeliver (challengeId : Nat) (challenge : String) (checkedAt began : Nat)
  | claimAnswer (handout : Handout)
deriving DecidableEq

/-- A handler's request, past the limiter and the identity check. -/
inductive PairingCall where
  | lookup (shortCode : String)
  | approve (owner : Uuid) (body : ApproveBody)
  | claim (challengeId : Nat) (challenge : String)

def PairingCall.task : PairingCall → PairingTask
  | .lookup shortCode => .lookup shortCode
  | .approve owner body => .approve owner body
  | .claim challengeId challenge => .claim challengeId challenge

/-- The end of a transaction: rolled back, committed, or committed with the
acknowledgement lost. -/
inductive CommitOutcome where
  | failed
  | committed
  | unacknowledged
deriving DecidableEq

/-- What a step reads from outside: both clocks, whether the database executes
the statement, how a transaction ends, the rows the statement's snapshot holds
in the order they are scanned, and the random values. -/
structure PairingEnv where
  process : Nat
  database : Nat
  dbOk : Bool
  commit : CommitOutcome
  scan : List Nat
  shortCode : String
  credential : String

inductive PairingInput where
  | register (body : RegisterBody)
  | request (task : Nat) (call : PairingCall)
  | advance (task : Nat)
  | cancel (challengeId : Nat) (owner : Uuid)
  | cleanup

/-! ## State -/

/-- An approval: the row the update returned, for whom, and the challenge the
request named. -/
structure Approval where
  challengeId : Nat
  owner : Uuid
  named : Option Nat
deriving DecidableEq

/-- A device created by a claim, and the handler that created it. -/
structure Creation where
  challengeId : Nat
  deviceId : Nat
  task : Nat
deriving DecidableEq

/-- What a Bridge keeps of its registration. -/
structure Registration where
  challenge : String
  expiresAt : Nat
deriving DecidableEq

/-- The tables, the running handlers and what they have answered.  The ids are
issued in sequence, a uuid being new each time.  `registrations`, `approvals`,
`creations`, `handouts`, `cancelled` and `wrongCodes` are history variables:
`wrongCodes` has the id of a challenge once for each approval request that named
it and gave another code. -/
structure Pairing where
  challenges : FiniteMap Nat ChallengeRow := ∅
  devices : FiniteMap Nat PairedDevice := ∅
  tasks : FiniteMap Nat PairingTask := ∅
  answers : List (Nat × PairingResponse) := []
  nextChallenge : Nat := 0
  nextDevice : Nat := 0
  registrations : FiniteMap Nat Registration := ∅
  approvals : List Approval := []
  creations : List Creation := []
  handouts : List Handout := []
  cancelled : List Nat := []
  wrongCodes : List Nat := []

namespace Pairing

/-- Microseconds, as the timestamps have them. -/
def pairingTtl : Nat := 5 * 60 * 1000000
def pairingRetention : Nat := 24 * 3600 * 1000000
def pairingMaxAttempts : Nat := 5
def i32Max : Nat := 2 ^ 31 - 1

def trim (s : String) : String := String.ofList (Bridge.Discovery.trim s.toList)

/-- `is_valid_challenge`: 32 bytes as base64url without padding. -/
def isValidChallenge (s : String) : Bool :=
  s.utf8ByteSize == 43 && s.toList.all fun c => c.isAlphanum || c == '-' || c == '_'

def truncated (limit : Nat) (s : String) : Option String :=
  some (String.ofList ((trim s).toList.take limit))

section

variable (digest : String → String) (env : PairingEnv)

/-! ## register -/

def register (body : RegisterBody) (s : Pairing) : Pairing :=
  let answer (response : PairingResponse) (s : Pairing) : Pairing :=
    { s with answers := s.answers ++ [(s.nextChallenge, response)] }
  let challenge := trim body.challenge
  if !isValidChallenge challenge then
    answer (.err 401 .authRequired "challenge 格式无效" "INVALID_CHALLENGE") s
  else if env.dbOk then
    let row : ChallengeRow :=
      { ownerId := none
        challengeDigest := digest challenge
        shortCodeDigest := digest env.shortCode
        info :=
          { deviceName := truncated 128 body.deviceName
            platform := truncated 64 body.platform
            arch := truncated 32 body.arch
            bridgeVersion := truncated 64 body.bridgeVersion }
        expiresAt := env.database + pairingTtl
        attemptCount := 0
        registeredAt := some env.database
        approvedAt := none
        credentialDeliveredAt := none
        consumedAt := none
        createdAt := env.database }
    { answer (.registered s.nextChallenge env.shortCode (env.process + pairingTtl)) s with
      challenges := s.challenges.insert s.nextChallenge row
      nextChallenge := s.nextChallenge + 1
      registrations := s.registrations.insert s.nextChallenge ⟨challenge, row.expiresAt⟩ }
  else answer (.err 500 .internalError "配对注册失败" "INTERNAL_ERROR") s

/-! ## Selecting by code -/

/-- `ORDER BY created_at DESC` over the rows of the snapshot that satisfy `p`. -/
def newestFirst (scan : List Nat) (p : ChallengeRow → Bool) (s : Pairing) : List Nat :=
  let created (id : Nat) : Nat := ((s.challenges.get? id).map (·.createdAt)).getD 0
  (scan.filter fun id => (s.challenges.get? id).any p).insertionSort fun a b =>
    created b ≤ created a

/-- `newest_by_short_code`. -/
def newestByShortCode (codeDigest : String) (s : Pairing) : Option (Nat × ChallengeRow) := do
  let id ← (s.newestFirst env.scan fun row =>
    row.shortCodeDigest == codeDigest && row.registeredAt.isSome).head?
  return (id, ← s.challenges.get? id)

/-- The condition of the approving update's subselect. -/
def approvable (codeDigest : String) (now : Nat) (row : ChallengeRow) : Bool :=
  row.shortCodeDigest == codeDigest && row.registeredAt.isSome && row.approvedAt.isNone &&
    row.consumedAt.isNone && decide (now < row.expiresAt) &&
    decide (row.attemptCount < pairingMaxAttempts)

/-! ## Handlers -/

/-- The handler goes on with its next step. -/
def go (id : Nat) (task : PairingTask) (s : Pairing) : Pairing :=
  { s with tasks := s.tasks.insert id task }

/-- The handler answers and ends. -/
def answer (id : Nat) (response : PairingResponse) (s : Pairing) : Pairing :=
  { s with tasks := s.tasks.erase id, answers := s.answers ++ [(id, response)] }

def reject (id status : Nat) (code : PairingCode) (message reason : String) (s : Pairing) :
    Pairing :=
  s.answer id (.err status code message reason)

/-- `lookup`. -/
def lookupNewest (id : Nat) (shortCode : String) (s : Pairing) : Pairing :=
  if !env.dbOk then s.reject id 500 .internalError "查询配对请求失败" "INTERNAL_ERROR"
  else
    match s.newestByShortCode env (digest (trim shortCode)) with
    | none => s.reject id 404 .sessionNotFound "短码无效" "NOT_FOUND"
    | some (challengeId, row) =>
      if row.expiresAt ≤ env.process then
        s.reject id 404 .sessionNotFound "配对请求已过期" "EXPIRED"
      else if row.consumedAt.isSome then
        s.reject id 404 .sessionNotFound "配对请求已取消" "CANCELLED"
      else if row.approvedAt.isSome then
        s.reject id 404 .sessionNotFound "配对请求已批准" "ALREADY_APPROVED"
      else if pairingMaxAttempts ≤ row.attemptCount then
        s.reject id 429 .rateLimited "短码错误次数过多,配对已锁定" "LOCKED"
      else s.go id (.lookupInfo challengeId row.expiresAt)

def lookupInfo (id challengeId expiresAt : Nat) (s : Pairing) : Pairing :=
  match s.challenges.get? challengeId with
  | some row =>
    if env.dbOk then s.answer id (.found challengeId row.info expiresAt)
    else s.reject id 500 .internalError "查询配对请求失败" "INTERNAL_ERROR"
  | none => s.reject id 500 .internalError "查询配对请求失败" "INTERNAL_ERROR"

/-- The code does not belong to the challenge the request names. -/
def wrongCode (body : ApproveBody) (s : Pairing) : Option Nat :=
  body.challengeId.filter fun challengeId => (s.challenges.get? challengeId).any fun row =>
    digest (trim body.shortCode) != row.shortCodeDigest

/-- `approve`, its comparison of the code with the challenge the request names.  A
failed statement counts as no row. -/
def approveCompare (id : Nat) (owner : Uuid) (body : ApproveBody) (s : Pairing) : Pairing :=
  match s.wrongCode digest body with
  | some challengeId =>
    if env.dbOk then s.go id (.countAttempt challengeId)
    else { s with wrongCodes := s.wrongCodes ++ [challengeId] }.go id (.approveUpdate owner body)
  | none => s.go id (.approveUpdate owner body)

/-- The row with one more attempt; a counter at its maximum fails the statement. -/
def countedRow (challengeId : Nat) (s : Pairing) : Option ChallengeRow :=
  if env.dbOk then
    ((s.challenges.get? challengeId).filter fun row => decide (row.attemptCount < i32Max)).map
      fun row => { row with attemptCount := row.attemptCount + 1 }
  else none

/-- `approve`, the counting of a wrong code.  A failed statement reads as
`i32::MAX`. -/
def countAttempt (id challengeId : Nat) (s : Pairing) : Pairing :=
  let counted := s.countedRow env challengeId
  let attempts := (counted.map (·.attemptCount)).getD i32Max
  let s :=
    { s with
      challenges := (counted.map (s.challenges.insert challengeId)).getD s.challenges
      wrongCodes := s.wrongCodes ++ [challengeId] }
  if pairingMaxAttempts < attempts then
    s.reject id 429 .rateLimited "短码错误次数过多,配对已锁定" "LOCKED"
  else s.reject id 401 .authRequired "短码不正确" "CODE_MISMATCH"

/-- The rows the approving update may take, the one it takes first. -/
def candidates (body : ApproveBody) (s : Pairing) : List Nat :=
  s.newestFirst env.scan (approvable (digest (trim body.shortCode)) env.database)

/-- `approve`, its update: the name of a challenge plays no part in it. -/
def approveUpdate (id : Nat) (owner : Uuid) (body : ApproveBody) (s : Pairing) : Pairing :=
  if !env.dbOk then s.reject id 500 .internalError "批准失败" "INTERNAL_ERROR"
  else
    match (s.candidates digest env body).head? with
    | none => s.go id (.approveClassify (digest (trim body.shortCode)))
    | some challengeId =>
      let approved : Pairing :=
        { s with
          challenges := s.challenges.modify challengeId fun row =>
            { row with approvedAt := some env.database, ownerId := some owner }
          approvals := s.approvals ++ [⟨challengeId, owner, body.challengeId⟩] }
      approved.answer id (.approved challengeId env.database)

/-- `approve`, the reason why no row was updated. -/
def approveClassify (id : Nat) (codeDigest : String) (s : Pairing) : Pairing :=
  match if env.dbOk then s.newestByShortCode env codeDigest else none with
  | none => s.reject id 404 .sessionNotFound "短码无效" "NOT_FOUND"
  | some (_, row) =>
    if row.expiresAt ≤ env.process then
      s.reject id 410 .approvalExpired "配对请求已过期" "EXPIRED"
    else if row.consumedAt.isSome then
      s.reject id 404 .sessionNotFound "配对请求已取消" "CANCELLED"
    else if row.approvedAt.isSome then
      s.reject id 409 .duplicateRequestMismatch "配对请求已批准" "ALREADY_APPROVED"
    else if pairingMaxAttempts ≤ row.attemptCount then
      s.reject id 429 .rateLimited "短码错误次数过多,配对已锁定" "LOCKED"
    else s.reject id 404 .sessionNotFound "短码无效" "NOT_FOUND"

/-- `claim`, its checks. -/
def claimSelect (id challengeId : Nat) (challenge : String) (s : Pairing) : Pairing :=
  match if env.dbOk then s.challenges.get? challengeId else none with
  | none => s.reject id 404 .sessionNotFound "配对请求不存在" "NOT_FOUND"
  | some row =>
    if digest (trim challenge) ≠ row.challengeDigest then
      s.reject id 401 .authRequired "challenge 不匹配" "CHALLENGE_MISMATCH"
    else if row.expiresAt ≤ env.process then
      s.reject id 410 .approvalExpired "配对请求已过期" "EXPIRED"
    else if row.credentialDeliveredAt.isSome then
      s.reject id 409 .duplicateRequestMismatch "凭据已被领取" "CONSUMED"
    else if row.approvedAt.isNone then s.answer id .pending
    else s.go id (.claimBegin challengeId challenge env.process)

/-- `claim` begins its transaction, whose `now()` is read here. -/
def claimBegin (id challengeId : Nat) (challenge : String) (checkedAt : Nat) (s : Pairing) :
    Pairing :=
  if env.dbOk then s.go id (.claimDeliver challengeId challenge checkedAt env.database)
  else s.reject id 500 .internalError "配对领取失败" "INTERNAL_ERROR"

/-- The condition of the delivering update: it does not ask whether the challenge
was cancelled. -/
def deliverable (began : Nat) (row : ChallengeRow) : Bool :=
  row.approvedAt.isSome && row.credentialDeliveredAt.isNone && decide (began < row.expiresAt)

/-- The transaction of `claim`. -/
def claimDeliver (id challengeId : Nat) (challenge : String) (checkedAt began : Nat)
    (s : Pairing) : Pairing :=
  if !env.dbOk then s.reject id 500 .internalError "配对领取失败" "INTERNAL_ERROR"
  else
    match (s.challenges.get? challengeId).filter (deliverable began) with
    | none => s.reject id 409 .duplicateRequestMismatch "凭据已被领取" "CONSUMED"
    | some row =>
      match row.ownerId with
      | none => s.reject id 500 .internalError "配对领取失败" "INTERNAL_ERROR"
      | some owner =>
        let device : PairedDevice :=
          { ownerId := owner
            displayName := row.info.deviceName.getD "Mac"
            platform := row.info.platform.getD ""
            arch := row.info.arch.getD ""
            bridgeVersion := row.info.bridgeVersion.getD ""
            credentialDigest := digest env.credential }
        let done : Pairing :=
          { s with
            challenges := s.challenges.insert challengeId
              { row with credentialDeliveredAt := some began, consumedAt := some began }
            devices := s.devices.insert s.nextDevice device
            nextDevice := s.nextDevice + 1
            creations := s.creations ++ [⟨challengeId, s.nextDevice, id⟩] }
        match env.commit with
        | .failed => s.reject id 500 .internalError "设备创建失败" "INTERNAL_ERROR"
        | .unacknowledged => done.reject id 500 .internalError "配对领取失败" "INTERNAL_ERROR"
        | .committed => done.go id
          (.claimAnswer ⟨challengeId, challenge, checkedAt, began, s.nextDevice, env.credential⟩)

/-- `claim` answers with the credential. -/
def claimAnswer (id : Nat) (handout : Handout) (s : Pairing) : Pairing :=
  { s with handouts := s.handouts ++ [handout] }.answer id
    (.ready handout.deviceId handout.deviceCredential)

def advance (id : Nat) (s : Pairing) : Pairing :=
  match s.tasks.get? id with
  | none => s
  | some (.lookup shortCode) => s.lookupNewest digest env id shortCode
  | some (.lookupInfo challengeId expiresAt) => s.lookupInfo env id challengeId expiresAt
  | some (.approve owner body) => s.approveCompare digest env id owner body
  | some (.countAttempt challengeId) => s.countAttempt env id challengeId
  | some (.approveUpdate owner body) => s.approveUpdate digest env id owner body
  | some (.approveClassify codeDigest) => s.approveClassify env id codeDigest
  | some (.claim challengeId challenge) => s.claimSelect digest env id challengeId challenge
  | some (.claimBegin challengeId challenge checkedAt) =>
    s.claimBegin env id challengeId challenge checkedAt
  | some (.claimDeliver challengeId challenge checkedAt began) =>
    s.claimDeliver digest env id challengeId challenge checkedAt began
  | some (.claimAnswer handout) => s.claimAnswer id handout

/-! ## cancel and cleanup -/

/-- `cancel_challenge`. -/
def cancel (challengeId : Nat) (owner : Uuid) (s : Pairing) : Pairing :=
  let answer (response : PairingResponse) (s : Pairing) : Pairing :=
    { s with answers := s.answers ++ [(challengeId, response)] }
  if !env.dbOk then answer (.err 500 .internalError "取消配对失败" "") s
  else
    match (s.challenges.get? challengeId).filter fun row =>
      row.ownerId == some owner && row.consumedAt.isNone with
    | none => answer (.err 404 .sessionNotFound "配对请求不存在" "") s
    | some row =>
      { answer .noContent s with
        challenges := s.challenges.insert challengeId { row with consumedAt := some env.database }
        cancelled := s.cancelled ++ [challengeId] }

/-- `cleanup_expired`, its statement on the challenges. -/
def cleanup (s : Pairing) : Pairing :=
  if env.dbOk then
    { s with challenges := s.challenges.filter fun _ row =>
      !decide (row.expiresAt + pairingRetention < env.database) }
  else s

end

/-! ## Runs -/

def step (digest : String → String) (s : Pairing) (i : PairingEnv × PairingInput) : Pairing :=
  match i.2 with
  | .register body => s.register digest i.1 body
  | .request id call => if s.tasks.contains id then s else s.go id call.task
  | .advance id => s.advance digest i.1 id
  | .cancel challengeId owner => s.cancel i.1 challengeId owner
  | .cleanup => s.cleanup i.1

def run (digest : String → String) (inputs : List (PairingEnv × PairingInput)) : Pairing :=
  inputs.foldl (step digest) {}

end Pairing

end AgentConsole.Relay
