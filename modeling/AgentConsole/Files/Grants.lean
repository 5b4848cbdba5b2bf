import AgentConsole.Transfer.Endpoints

/-! # File grants

`FileGrantManager` issues a token for one file of a session and checks the file again each
time the token is used.  The file system may change at any time: every call to it is answered
by the file system that the call finds.  The grants are looked up under a lock before the file
is touched, so a read that runs beside a `revoke` is one that was looked up before it.

The endpoints know of a file only what stands at its path; here the path is resolved link by
link. -/

namespace AgentConsole.Files

open AgentConsole.Lib
open AgentConsole.Bridge.Discovery (trim)
open AgentConsole.Transfer (FilesError FileIdentity GrantAction GrantActions
  maxActiveTransfersPerDevice)

/-! ## Paths and files -/

/-- `std::path::Component` -/
inductive Component where
  | rootDir
  | curDir
  | parentDir
  | normal (name : String)
  deriving DecidableEq

/-- A path by its components; only the empty path has none. -/
abbrev Path := List Component

/-- An absolute path without links, by its names. -/
abbrev CanonicalPath := List String

def CanonicalPath.path (path : CanonicalPath) : Path := .rootDir :: path.map .normal

/-- `root.join(relative)`, for a relative path of plain names. -/
def CanonicalPath.join (root : CanonicalPath) (relative : List String) : Path :=
  CanonicalPath.path (root ++ relative)

/-- `std::fs::Metadata`, as far as it is read. -/
structure Metadata where
  isFile : Bool
  identity : FileIdentity
  len : Nat
  mtimeNs : Int
  deriving DecidableEq

/-- The file system at one moment; `none` is an I/O error. -/
structure FileSystem where
  canonicalize : Path → Option CanonicalPath
  isDir : CanonicalPath → Bool
  metadata : CanonicalPath → Option Metadata
  /-- The descriptor `File::open` returns. -/
  openFile : CanonicalPath → Option Nat
  fdMetadata : Nat → Option Metadata

/-! ## Grants -/

inductive GrantSource where
  | sessionUpload
  | sessionReference (evidence : String)
  | userOpened
  deriving DecidableEq

inductive GrantSourceKind where
  | upload
  | sessionReference
  | userOpened
  deriving DecidableEq

structure FileHandle where
  token : String
  deviceId : String
  session : String
  root : CanonicalPath
  /-- The names between the slashes. -/
  relativePath : List String
  actions : GrantActions
  sourceKind : GrantSourceKind
  identity : FileIdentity
  size : Nat
  mtimeNs : Int
  expiresAt : Nat
  deriving DecidableEq

structure VerifiedFile where
  file : Nat
  size : Nat
  mtimeNs : Int
  identity : FileIdentity
  handle : FileHandle
  deriving DecidableEq

/-- Durations and times are nanoseconds. -/
def maxGrantTtl : Nat := 3600 * 10 ^ 9

/-! ## Issuing -/

structure IssueRequest where
  deviceId : String
  session : String
  root : Path
  relativePath : Path
  actions : GrantActions
  source : GrantSource
  ttl : Nat

/-- The file system as each call of `issue` finds it, the token drawn, and the time of day. -/
structure IssueCalls where
  root : FileSystem
  directory : FileSystem
  target : FileSystem
  metadata : FileSystem
  token : String
  systemTime : Nat

/-- The kind of a source; a reference needs evidence that is not blank. -/
def GrantSource.kind : GrantSource → Except FilesError GrantSourceKind
  | .sessionUpload => .ok .upload
  | .sessionReference evidence =>
    if trim evidence.toList = [] then .error (.internal "session reference requires evidence")
    else .ok .sessionReference
  | .userOpened => .ok .userOpened

def Component.name? : Component → Option String
  | .normal name => some name
  | _ => none

def normalizeRelative (rel : Path) : Except FilesError (List String) :=
  if rel = [] ∨ rel.head? = some .rootDir then .error (.handleInvalid "relative path required")
  else
    match rel.mapM Component.name? with
    | none => .error (.handleInvalid "path traversal rejected")
    | some [] => .error (.handleInvalid "relative path required")
    | some parts => .ok parts

/-- `map_err`, for a result whose error is not looked at. -/
def orElse {α : Type} (error : FilesError) : Option α → Except FilesError α
  | some a => .ok a
  | none => .error error

/-- The handle that `issue` makes, before it enters the map. -/
def issueHandle (request : IssueRequest) (calls : IssueCalls) : Except FilesError FileHandle := do
  if request.deviceId = "" ∨ request.session = "" then
    throw (.internal "device/session required")
  if request.actions.bits = 0 then
    throw (.internal "at least one action required")
  let sourceKind ← request.source.kind
  let root ← orElse (.handleInvalid "root missing") (calls.root.canonicalize request.root)
  if !calls.directory.isDir root then
    throw (.handleInvalid "root not a directory")
  let rel ← normalizeRelative request.relativePath
  let target ← orElse (.handleInvalid "target missing") (calls.target.canonicalize (root.join rel))
  if !root.isPrefixOf target then
    throw .outsideScope
  let meta_ ← orElse .io (calls.metadata.metadata target)
  if !meta_.isFile then
    throw (.handleInvalid "target is not a regular file")
  return {
    token := calls.token
    deviceId := request.deviceId
    session := request.session
    root
    relativePath := rel
    actions := request.actions
    sourceKind
    identity := meta_.identity
    size := meta_.len
    mtimeNs := meta_.mtimeNs
    expiresAt := calls.systemTime + min request.ttl maxGrantTtl }

structure GrantEntry where
  handle : FileHandle
  deadline : Nat
  deriving DecidableEq

structure FileGrantManager where
  grants : FiniteMap String GrantEntry := ∅
  transfers : FiniteMap String Nat := ∅

/-! ## Reading -/

structure ResolveRequest where
  deviceId : String
  session : String
  token : String
  action : GrantAction
  deriving DecidableEq

/-- The file system as each call of `resolve_for_read` finds it. -/
structure ResolveCalls where
  root : FileSystem
  target : FileSystem
  opening : FileSystem
  metadata : FileSystem

/-- The part of `resolve_for_read` behind the lookup. -/
def FileHandle.reopen (handle : FileHandle) (calls : ResolveCalls) :
    Except FilesError VerifiedFile := do
  let root ← orElse (.handleInvalid "root missing") (calls.root.canonicalize handle.root.path)
  let target ← orElse (.handleInvalid "target missing")
    (calls.target.canonicalize (root.join handle.relativePath))
  if !root.isPrefixOf target then
    throw .outsideScope
  let file ← orElse .io (calls.opening.openFile target)
  let fdMeta ← orElse .io (calls.metadata.fdMetadata file)
  if fdMeta.identity ≠ handle.identity ∨ fdMeta.len ≠ handle.size ∨
      fdMeta.mtimeNs ≠ handle.mtimeNs then
    throw .changed
  return ⟨file, handle.size, handle.mtimeNs, handle.identity, handle⟩

namespace FileGrantManager

variable (m : FileGrantManager) (now : Nat)

/-- `issue`: only a handle that was made enters the map, over an older one of its token. -/
def issue (request : IssueRequest) (calls : IssueCalls) :
    Except FilesError FileHandle × FileGrantManager :=
  match issueHandle request calls with
  | .error error => (.error error, m)
  | .ok handle =>
    let deadline := now + min request.ttl maxGrantTtl
    (.ok handle, { m with grants := m.grants.insert handle.token ⟨handle, deadline⟩ })

/-- An expired grant is removed as it is found. -/
def lookupValid (request : ResolveRequest) : Except FilesError FileHandle × FileGrantManager :=
  match m.grants.get? request.token with
  | none => (.error (.handleInvalid "unknown token"), m)
  | some entry =>
    if entry.deadline ≤ now then
      (.error .transferExpired, { m with grants := m.grants.erase request.token })
    else if entry.handle.deviceId ≠ request.deviceId ∨ entry.handle.session ≠ request.session then
      (.error (.handleInvalid "binding mismatch"), m)
    else if !entry.handle.actions.allows request.action then
      (.error (.handleInvalid "action not allowed"), m)
    else (.ok entry.handle, m)

def resolveForRead (request : ResolveRequest) (calls : ResolveCalls) :
    Except FilesError VerifiedFile × FileGrantManager :=
  match m.lookupValid now request with
  | (.error error, m) => (.error error, m)
  | (.ok handle, m) => (handle.reopen calls, m)

def revoke (token : String) : Bool × FileGrantManager :=
  (m.grants.contains token, { m with grants := m.grants.erase token })

def sweepExpired : FileGrantManager :=
  { m with grants := m.grants.filter fun _ entry => now < entry.deadline }

/-! ## Transfer slots -/

/-- On success the caller holds a guard for the device. -/
def acquireTransferSlot (deviceId : String) : Except FilesError Unit × FileGrantManager :=
  let count := (m.transfers.get? deviceId).getD 0
  if maxActiveTransfersPerDevice ≤ count then
    (.error .tooManyTransfers, { m with transfers := m.transfers.insert deviceId count })
  else (.ok (), { m with transfers := m.transfers.insert deviceId (count + 1) })

/-- `Drop` of a guard of the device. -/
def dropTransferSlot (deviceId : String) : FileGrantManager :=
  match m.transfers.get? deviceId with
  | none => m
  | some count =>
    if count - 1 = 0 then { m with transfers := m.transfers.erase deviceId }
    else { m with transfers := m.transfers.insert deviceId (count - 1) }

/-- The slots of a device in use. -/
def usedSlots (deviceId : String) : Nat := (m.transfers.get? deviceId).getD 0

end FileGrantManager

/-! ## Runs -/

/-- The manager, the devices of the guards that live, and the clock. -/
structure Grants where
  manager : FileGrantManager := {}
  guards : List String := []
  now : Nat := 0

inductive GrantEvent where
  | issue (request : IssueRequest) (calls : IssueCalls)
  | resolve (request : ResolveRequest) (calls : ResolveCalls)
  | revoke (token : String)
  | sweep
  | startTransfer (deviceId : String)
  /-- The guard at this place of the list is dropped, whichever it is. -/
  | endTransfer (index : Nat)
  | elapse (duration : Nat)

namespace Grants

def step (s : Grants) : GrantEvent → Grants
  | .issue request calls => { s with manager := (s.manager.issue s.now request calls).2 }
  | .resolve request calls => { s with manager := (s.manager.resolveForRead s.now request calls).2 }
  | .revoke token => { s with manager := (s.manager.revoke token).2 }
  | .sweep => { s with manager := s.manager.sweepExpired s.now }
  | .startTransfer deviceId =>
    match s.manager.acquireTransferSlot deviceId with
    | (.ok (), manager) => { s with manager, guards := s.guards ++ [deviceId] }
    | (.error _, manager) => { s with manager }
  | .endTransfer index =>
    match s.guards[index]? with
    | none => s
    | some deviceId =>
      { s with manager := s.manager.dropTransferSlot deviceId, guards := s.guards.eraseIdx index }
  | .elapse duration => { s with now := s.now + duration }

def run (history : List GrantEvent) : Grants := history.foldl step {}

end Grants

/-- The event ends a grant of the token: it is revoked, or its token is issued anew. -/
def GrantEvent.Ends (token : String) : GrantEvent → Prop
  | .revoke revoked => revoked = token
  | .issue request calls => ∃ handle, issueHandle request calls = .ok handle ∧ handle.token = token
  | _ => False

/-- What a successful read shows: the history has an issue of the token, with nothing that
ended it since; it is read in time, from where and for what it was issued; the file is found
inside the root, both resolved anew; and it is the file that was found there when the token
was issued, of the same size and time. -/
structure Justified (history : List GrantEvent) (request : ResolveRequest) (calls : ResolveCalls)
    (file : VerifiedFile) : Prop where
  issued : ∃ earlier issue issueCalls later handle,
    history = earlier ++ .issue issue issueCalls :: later ∧
    issueHandle issue issueCalls = .ok handle ∧ handle.token = request.token ∧
    (∀ event ∈ later, ¬ event.Ends request.token) ∧
    (Grants.run history).now < (Grants.run earlier).now + min issue.ttl maxGrantTtl ∧
    issue.deviceId = request.deviceId ∧ issue.session = request.session ∧
    issue.actions.allows request.action = true ∧
    ∃ issuedRoot relative issuedTarget issuedMeta root target fdMeta,
      issueCalls.root.canonicalize issue.root = some issuedRoot ∧
      normalizeRelative issue.relativePath = .ok relative ∧
      issueCalls.target.canonicalize (issuedRoot.join relative) = some issuedTarget ∧
      issuedRoot <+: issuedTarget ∧
      issueCalls.metadata.metadata issuedTarget = some issuedMeta ∧
      calls.root.canonicalize issuedRoot.path = some root ∧
      calls.target.canonicalize (root.join relative) = some target ∧
      root <+: target ∧
      calls.opening.openFile target = some file.file ∧
      calls.metadata.fdMetadata file.file = some fdMeta ∧
      fdMeta.identity = issuedMeta.identity ∧ fdMeta.len = issuedMeta.len ∧
      fdMeta.mtimeNs = issuedMeta.mtimeNs

/-! ## What issuing and reading check -/

theorem orElse_ok {α : Type} {error : FilesError} {a : Option α} {b : α} :
    orElse error a = .ok b ↔ a = some b := by
  cases a <;> simp [orElse]

theorem bind_ok {α β : Type} {a : Except FilesError α} {f : α → Except FilesError β} {b : β} :
    (a >>= f) = .ok b ↔ ∃ x, a = .ok x ∧ f x = .ok b := by
  cases a <;> simp [bind, Except.bind]

/-- `if failed { return Err(..) }` in front of the rest. -/
theorem guard_ok {α : Type} {failed : Prop} [Decidable failed] {error : FilesError}
    {rest : Except FilesError α} {a : α} :
    (if failed then throw error >>= fun _ : PUnit => rest else rest) = .ok a ↔
      ¬ failed ∧ rest = .ok a := by
  by_cases h : failed <;> simp [h, throw, throwThe, MonadExceptOf.throw, bind, Except.bind]

/-- A handle is bound to its request and to a regular file inside the root. -/
theorem issueHandle_ok {request : IssueRequest} {calls : IssueCalls} {handle : FileHandle}
    (ok : issueHandle request calls = .ok handle) :
    handle.token = calls.token ∧ handle.deviceId = request.deviceId ∧
      handle.session = request.session ∧ handle.actions = request.actions ∧
      calls.root.canonicalize request.root = some handle.root ∧
      normalizeRelative request.relativePath = .ok handle.relativePath ∧
      ∃ target meta_, calls.target.canonicalize (handle.root.join handle.relativePath) = some target ∧
        handle.root <+: target ∧ calls.metadata.metadata target = some meta_ ∧
        handle.identity = meta_.identity ∧ handle.size = meta_.len ∧
        handle.mtimeNs = meta_.mtimeNs := by
  simp only [issueHandle, guard_ok, bind_ok, orElse_ok] at ok
  obtain ⟨-, -, kind, -, root, rooted, -, rel, relative, target, found, inside, meta_, stat, -,
    made⟩ := ok
  obtain rfl := Except.ok.inj made
  refine ⟨rfl, rfl, rfl, rfl, rooted, relative, target, meta_, found, ?_, stat, rfl, rfl, rfl⟩
  simpa [List.isPrefixOf_iff_prefix] using inside

/-- The file is opened under the root, resolved anew, and is the one of the handle. -/
theorem reopen_ok {handle : FileHandle} {calls : ResolveCalls} {file : VerifiedFile}
    (ok : handle.reopen calls = .ok file) :
    ∃ root target fdMeta, calls.root.canonicalize handle.root.path = some root ∧
      calls.target.canonicalize (root.join handle.relativePath) = some target ∧ root <+: target ∧
      calls.opening.openFile target = some file.file ∧
      calls.metadata.fdMetadata file.file = some fdMeta ∧ fdMeta.identity = handle.identity ∧
      fdMeta.len = handle.size ∧ fdMeta.mtimeNs = handle.mtimeNs := by
  simp only [FileHandle.reopen, guard_ok, bind_ok, orElse_ok, not_or, not_not] at ok
  obtain ⟨root, rooted, target, found, inside, fd, opened, fdMeta, stat, unchanged, made⟩ := ok
  obtain rfl := Except.ok.inj made
  refine ⟨root, target, fdMeta, rooted, found, ?_, opened, stat, unchanged⟩
  simpa [List.isPrefixOf_iff_prefix] using inside

namespace FileGrantManager

variable {m : FileGrantManager} {now : Nat}

theorem lookupValid_ok {request : ResolveRequest} {handle : FileHandle}
    (ok : (m.lookupValid now request).1 = .ok handle) :
    ∃ deadline, m.grants.get? request.token = some ⟨handle, deadline⟩ ∧ now < deadline ∧
      handle.deviceId = request.deviceId ∧ handle.session = request.session ∧
      handle.actions.allows request.action = true := by
  unfold lookupValid at ok
  split at ok
  next => simp at ok
  next entry found =>
    by_cases expired : entry.deadline ≤ now
    · simp [expired] at ok
    · by_cases unbound :
        entry.handle.deviceId ≠ request.deviceId ∨ entry.handle.session ≠ request.session
      · simp [expired, unbound] at ok
      · by_cases refused : entry.handle.actions.allows request.action
        · simp only [expired, unbound, refused, if_false, Bool.not_true, Bool.false_eq_true,
            Except.ok.injEq] at ok
          subst ok
          rw [not_or, not_not, not_not] at unbound
          exact ⟨entry.deadline, found, by omega, unbound.1, unbound.2, refused⟩
        · simp [expired, unbound, refused] at ok

theorem resolveForRead_ok {request : ResolveRequest} {calls : ResolveCalls} {file : VerifiedFile}
    (ok : (m.resolveForRead now request calls).1 = .ok file) :
    ∃ handle, (m.lookupValid now request).1 = .ok handle ∧ handle.reopen calls = .ok file := by
  unfold resolveForRead at ok
  split at ok
  next => simp at ok
  next handle after looked => exact ⟨handle, by rw [looked], ok⟩

/-- A lookup may only take a grant away. -/
theorem get?_lookupValid {request : ResolveRequest} {token : String} {entry : GrantEntry}
    (found : (m.lookupValid now request).2.grants.get? token = some entry) :
    m.grants.get? token = some entry := by
  unfold lookupValid at found
  split at found
  next => exact found
  next =>
    split at found
    next =>
      rw [FiniteMap.get?_erase] at found
      split at found
      next => simp at found
      next => exact found
    next =>
      split at found
      next => exact found
      next => split at found <;> exact found

theorem snd_resolveForRead (request : ResolveRequest) (calls : ResolveCalls) :
    (m.resolveForRead now request calls).2 = (m.lookupValid now request).2 := by
  unfold resolveForRead
  split <;> simp_all

theorem grants_acquireTransferSlot (m : FileGrantManager) (deviceId : String) :
    (m.acquireTransferSlot deviceId).2.grants = m.grants := by
  simp only [acquireTransferSlot]
  split <;> rfl

end FileGrantManager

/-! ## The grants of a run -/

namespace Grants

/-- The entry was made by an issue in the history that nothing has ended since. -/
def Recorded (history : List GrantEvent) (token : String) (entry : GrantEntry) : Prop :=
  ∃ earlier issue calls later,
    history = earlier ++ .issue issue calls :: later ∧
    issueHandle issue calls = .ok entry.handle ∧ entry.handle.token = token ∧
    entry.deadline = (run earlier).now + min issue.ttl maxGrantTtl ∧
    ∀ event ∈ later, ¬ event.Ends token

theorem run_append (history : List GrantEvent) (event : GrantEvent) :
    run (history ++ [event]) = (run history).step event := by
  simp [run, List.foldl_append]

/-- A grant behind a step was there before it, and the step did not end it, or the step has
issued it. -/
theorem grant_of_step {s : Grants} {event : GrantEvent} {token : String} {entry : GrantEntry}
    (found : (s.step event).manager.grants.get? token = some entry) :
    (s.manager.grants.get? token = some entry ∧ ¬ event.Ends token) ∨
      ∃ request calls, event = .issue request calls ∧ issueHandle request calls = .ok entry.handle ∧
        entry.handle.token = token ∧ entry.deadline = s.now + min request.ttl maxGrantTtl := by
  cases event with
  | issue request calls =>
    simp only [step, FileGrantManager.issue] at found
    split at found
    next error failed =>
      left
      refine ⟨found, ?_⟩
      rintro ⟨handle, made, -⟩
      simp [failed] at made
    next handle made =>
      simp only [FiniteMap.get?_insert] at found
      split at found
      next same =>
        right
        obtain rfl := Option.some.inj found
        exact ⟨request, calls, rfl, made, same.symm, rfl⟩
      next other =>
        left
        refine ⟨found, ?_⟩
        rintro ⟨handle', made', rfl⟩
        rw [made] at made'
        obtain rfl := Except.ok.inj made'
        exact other rfl
  | resolve request calls =>
    left
    simp only [step, FileGrantManager.snd_resolveForRead] at found
    exact ⟨FileGrantManager.get?_lookupValid found, by simp [GrantEvent.Ends]⟩
  | revoke revoked =>
    left
    simp only [step, FileGrantManager.revoke, FiniteMap.get?_erase] at found
    split at found
    next => simp at found
    next other => exact ⟨found, fun same => other (Eq.symm same)⟩
  | sweep =>
    left
    exact ⟨(FiniteMap.get?_of_filter found).1, by simp [GrantEvent.Ends]⟩
  | startTransfer deviceId =>
    left
    refine ⟨?_, by simp [GrantEvent.Ends]⟩
    have grants := s.manager.grants_acquireTransferSlot deviceId
    simp only [step] at found
    split at found
    next acquired => rwa [← grants, acquired]
    next acquired => rwa [← grants, acquired]
  | endTransfer index =>
    left
    refine ⟨?_, by simp [GrantEvent.Ends]⟩
    simp only [step] at found
    split at found
    next => exact found
    next =>
      simp only [FileGrantManager.dropTransferSlot] at found
      split at found
      next => exact found
      next => split at found <;> exact found
  | elapse duration =>
    left
    exact ⟨found, by simp [GrantEvent.Ends]⟩

/-- Every grant in the map is on record. -/
theorem recorded (history : List GrantEvent) {token : String} {entry : GrantEntry}
    (found : (run history).manager.grants.get? token = some entry) :
    Recorded history token entry := by
  induction history using List.reverseRecOn with
  | nil => simp [run] at found
  | append_singleton history event ih =>
    rw [run_append] at found
    rcases grant_of_step found with ⟨before, kept⟩ | ⟨request, calls, rfl, made, same, deadline⟩
    · obtain ⟨earlier, issue, calls, later, rfl, made, same, deadline, live⟩ := ih before
      refine ⟨earlier, issue, calls, later ++ [event], by simp, made, same, deadline, ?_⟩
      intro e member
      rcases List.mem_append.mp member with inside | last
      · exact live e inside
      · rwa [List.mem_singleton.mp last]
    · exact ⟨history, request, calls, [], rfl, made, same, deadline, by simp⟩

theorem resolve_justified (history : List GrantEvent) {request : ResolveRequest}
    {calls : ResolveCalls} {file : VerifiedFile}
    (ok : ((run history).manager.resolveForRead (run history).now request calls).1 = .ok file) :
    Justified history request calls file := by
  obtain ⟨handle, looked, reopened⟩ := FileGrantManager.resolveForRead_ok ok
  obtain ⟨deadline, found, inTime, device, session, allowed⟩ :=
    FileGrantManager.lookupValid_ok looked
  obtain ⟨earlier, issue, issueCalls, later, split, made, same, due, live⟩ :=
    recorded history found
  obtain ⟨-, issuedDevice, issuedSession, issuedActions, issuedRoot, relative, issuedTarget,
    issuedMeta, issuedFound, issuedInside, issuedStat, identity, size, mtime⟩ := issueHandle_ok made
  obtain ⟨root, target, fdMeta, rooted, targeted, inside, opened, stat, sameFile, sameSize,
    sameTime⟩ := reopen_ok reopened
  refine ⟨earlier, issue, issueCalls, later, handle, split, made, same, live, ?_, ?_, ?_, ?_,
    handle.root, handle.relativePath, issuedTarget, issuedMeta, root, target, fdMeta, issuedRoot,
    relative, issuedFound, issuedInside, issuedStat, rooted, targeted, inside, opened, stat,
    sameFile.trans identity, sameSize.trans size, sameTime.trans mtime⟩
  · rwa [← due]
  · rw [← issuedDevice, device]
  · rw [← issuedSession, session]
  · rw [← issuedActions, allowed]

/-! ## The slots of a run -/

/-- Each device uses a slot for every guard that lives, and no entry of the map is zero. -/
structure SlotsHeld (s : Grants) : Prop where
  held : ∀ device, s.manager.usedSlots device = s.guards.count device
  bounded : ∀ device, s.manager.usedSlots device ≤ maxActiveTransfersPerDevice

theorem SlotsHeld.of_same {s t : Grants} (holds : s.SlotsHeld)
    (transfers : t.manager.transfers = s.manager.transfers) (guards : t.guards = s.guards) :
    t.SlotsHeld := by
  have used (device : String) : t.manager.usedSlots device = s.manager.usedSlots device := by
    rw [FileGrantManager.usedSlots, transfers, FileGrantManager.usedSlots]
  constructor
  · intro device
    rw [used, holds.held, guards]
  · intro device
    rw [used]
    exact holds.bounded device

theorem transfers_lookupValid (m : FileGrantManager) (now : Nat) (request : ResolveRequest) :
    (m.lookupValid now request).2.transfers = m.transfers := by
  unfold FileGrantManager.lookupValid
  split
  next => rfl
  next =>
    split
    next => rfl
    next =>
      split
      next => rfl
      next => split <;> rfl

theorem SlotsHeld.startTransfer {s : Grants} (holds : s.SlotsHeld) (device : String) :
    (s.step (.startTransfer device)).SlotsHeld := by
  have bound := holds.bounded device
  simp only [FileGrantManager.usedSlots] at bound
  simp only [step, FileGrantManager.acquireTransferSlot]
  by_cases full : maxActiveTransfersPerDevice ≤ (s.manager.transfers.get? device).getD 0
  · -- refused: the entry is written back as it was
    simp only [full, if_true]
    have used (other : String) :
        ((s.manager.transfers.insert device ((s.manager.transfers.get? device).getD 0)).get?
          other).getD 0 = (s.manager.transfers.get? other).getD 0 := by
      rw [FiniteMap.get?_insert]
      split
      next same => simp [same]
      next => rfl
    constructor
    · intro other
      simpa [FileGrantManager.usedSlots, used] using holds.held other
    · intro other
      simpa [FileGrantManager.usedSlots, used] using holds.bounded other
  · simp only [full, if_false]
    have used (other : String) :
        ((s.manager.transfers.insert device ((s.manager.transfers.get? device).getD 0 + 1)).get?
          other).getD 0 =
        (s.manager.transfers.get? other).getD 0 + if other = device then 1 else 0 := by
      rw [FiniteMap.get?_insert]
      split
      next same => simp [same]
      next => simp
    constructor
    · intro other
      have held := holds.held other
      simp only [FileGrantManager.usedSlots] at held ⊢
      rw [used, held, List.count_append]
      by_cases same : other = device
      · simp [same]
      · simp [same, Ne.symm same]
    · intro other
      have least := holds.bounded other
      simp only [FileGrantManager.usedSlots] at least ⊢
      rw [used]
      split
      next same =>
        subst same
        omega
      next => omega

theorem SlotsHeld.endTransfer {s : Grants} (holds : s.SlotsHeld) (index : Nat) :
    (s.step (.endTransfer index)).SlotsHeld := by
  simp only [step]
  split
  next => exact holds
  next device guard =>
    obtain ⟨inside, guarded⟩ := List.getElem?_eq_some_iff.mp guard
    have dropped (other : String) : s.guards.count other =
        (s.guards.eraseIdx index).count other + if device = other then 1 else 0 := by
      have perm := List.getElem_cons_eraseIdx_perm inside
      rw [← perm.count_eq, guarded, List.count_cons]
      simp
    -- the guard that is dropped has a slot, so nothing underflows
    have slot : 0 < (s.manager.transfers.get? device).getD 0 := by
      have held := holds.held device
      rw [FileGrantManager.usedSlots, dropped, if_pos rfl] at held
      omega
    have used (other : String) : (s.manager.dropTransferSlot device).usedSlots other =
        s.manager.usedSlots other - if device = other then 1 else 0 := by
      simp only [FileGrantManager.dropTransferSlot, FileGrantManager.usedSlots]
      cases found : s.manager.transfers.get? device with
      | none => simp [found] at slot
      | some count =>
        by_cases last : count - 1 = 0
        · simp only [last, if_true, FiniteMap.get?_erase]
          by_cases same : other = device
          · subst same
            simp [found, last]
          · simp [same, Ne.symm same]
        · simp only [last, if_false, FiniteMap.get?_insert]
          by_cases same : other = device
          · subst same
            simp [found]
          · simp [same, Ne.symm same]
    constructor
    · intro other
      have held := holds.held other
      rw [dropped] at held
      rw [used, held]
      exact Nat.add_sub_cancel _ _
    · intro other
      have least := holds.bounded other
      rw [used]
      omega

theorem slotsHeld_step {s : Grants} (holds : s.SlotsHeld) (event : GrantEvent) :
    (s.step event).SlotsHeld := by
  cases event with
  | issue request calls =>
    refine holds.of_same ?_ rfl
    simp only [step, FileGrantManager.issue]
    split <;> rfl
  | resolve request calls =>
    refine holds.of_same ?_ rfl
    simp only [step, FileGrantManager.snd_resolveForRead, transfers_lookupValid]
  | revoke token => exact holds.of_same rfl rfl
  | sweep => exact holds.of_same rfl rfl
  | startTransfer deviceId => exact holds.startTransfer deviceId
  | endTransfer index => exact holds.endTransfer index
  | elapse duration => exact holds.of_same rfl rfl

theorem slotsHeld (history : List GrantEvent) : (run history).SlotsHeld := by
  induction history using List.reverseRecOn with
  | nil => constructor <;> simp [run, FileGrantManager.usedSlots]
  | append_singleton history event ih =>
    rw [run_append]
    exact slotsHeld_step ih event

/-- After every history, a read that succeeds is justified, and each device uses exactly the
slots of its live guards, within the limit. -/
theorem grants_sound (history : List GrantEvent) :
    (∀ request calls file,
      ((run history).manager.resolveForRead (run history).now request calls).1 = .ok file →
        Justified history request calls file) ∧
      ∀ device, (run history).manager.usedSlots device = (run history).guards.count device ∧
        (run history).manager.usedSlots device ≤ maxActiveTransfersPerDevice := by
  constructor
  · intro request calls file ok
    exact resolve_justified history ok
  · intro device
    exact ⟨(slotsHeld history).held device, (slotsHeld history).bounded device⟩

/-! ## A file of an upload -/

/-- One regular file under one directory. -/
def onePayload : FileSystem where
  canonicalize path :=
    if path = [.rootDir, .normal "u"] then some ["u"]
    else if path = [.rootDir, .normal "u", .normal "payload"] then some ["u", "payload"]
    else none
  isDir path := path = ["u"]
  metadata path := if path = ["u", "payload"] then some ⟨true, ⟨1, 2⟩, 5, 7⟩ else none
  openFile path := if path = ["u", "payload"] then some 3 else none
  fdMetadata fd := if fd = 3 then some ⟨true, ⟨1, 2⟩, 5, 7⟩ else none

def payloadIssued : List GrantEvent :=
  [.issue ⟨"d-1", "s-1", [.rootDir, .normal "u"], [.normal "payload"], .all, .sessionUpload, 600⟩
    ⟨onePayload, onePayload, onePayload, onePayload, "t-1", 0⟩, .elapse 599]

/-- A preview within the lifetime of the grant. -/
theorem payload_read_justified :
    ∃ file, Justified payloadIssued ⟨"d-1", "s-1", "t-1", .preview⟩
      ⟨onePayload, onePayload, onePayload, onePayload⟩ file := by
  obtain ⟨file, ok⟩ : ∃ file, ((run payloadIssued).manager.resolveForRead (run payloadIssued).now
      ⟨"d-1", "s-1", "t-1", .preview⟩ ⟨onePayload, onePayload, onePayload, onePayload⟩).1 =
      .ok file :=
    ⟨⟨3, 5, 7, ⟨1, 2⟩, _⟩, rfl⟩
  exact ⟨file, (grants_sound payloadIssued).1 _ _ _ ok⟩

end Grants

end AgentConsole.Files
