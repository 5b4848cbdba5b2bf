import AgentConsole.Lib.FiniteMap
import AgentConsole.Transfer.Ranges

/-! # The preview and the download of a file

The browser asks one of two endpoints of the Relay, which differ in the disposition their answer
falls back to.  The offer does not say which of them was asked: the Bridge tries to open the file
for a preview, then for a download, and names the disposition itself.

The request is of an owner who is signed in and whose device takes the offer, and nobody
cancels it.  The file system is a parameter: what stands at the path of a handle. -/

namespace AgentConsole.Transfer

open AgentConsole.Lib
open AgentConsole.Bridge (StableErrorCode)
open AgentConsole.Bridge.Discovery (trim)

/-! ## Grants -/

inductive GrantAction where
  | preview
  | download
  | upload
deriving DecidableEq

/-- A set of actions as bits. -/
structure GrantActions where
  bits : UInt8
deriving DecidableEq

def GrantAction.bit : GrantAction → UInt8
  | preview => 1
  | download => 2
  | upload => 4

def GrantActions.all : GrantActions := ⟨7⟩

def GrantActions.allows (actions : GrantActions) (action : GrantAction) : Bool :=
  actions.bits &&& action.bit != 0

structure FileIdentity where
  dev : Nat
  ino : Nat
deriving DecidableEq

structure FileHandle where
  deviceId : String
  session : String
  root : String
  relativePath : String
  actions : GrantActions
  identity : FileIdentity
  size : Nat
  mtimeNs : Int
deriving DecidableEq

structure GrantEntry where
  handle : FileHandle
  deadline : Nat

/-- A file as it is opened. -/
structure OpenedFile where
  identity : FileIdentity
  mtimeNs : Int
  content : List UInt8

/-- What is found below a root, or why it may not be read. -/
abbrev FileSystem := String → String → Except FilesError OpenedFile

structure FileGrantManager where
  grants : FiniteMap String GrantEntry
  transfers : FiniteMap String Nat

def maxActiveTransfersPerDevice : Nat := 2

namespace FileGrantManager

variable (m : FileGrantManager)

/-- `acquire_transfer_slot`; the slot is given back when the transfer is over. -/
def acquireTransferSlot (device : String) : Except FilesError FileGrantManager :=
  let count := (m.transfers.get? device).getD 0
  if maxActiveTransfersPerDevice ≤ count then .error .tooManyTransfers
  else .ok { m with transfers := m.transfers.insert device (count + 1) }

/-- A handle whose deadline has passed is forgotten. -/
def lookupValid (now : Nat) (device session token : String) (action : GrantAction) :
    FileGrantManager × Except FilesError FileHandle :=
  match m.grants.get? token with
  | none => (m, .error (.handleInvalid "unknown token"))
  | some entry =>
    if entry.deadline ≤ now then
      ({ m with grants := m.grants.erase token }, .error .transferExpired)
    else if entry.handle.deviceId ≠ device ∨ entry.handle.session ≠ session then
      (m, .error (.handleInvalid "binding mismatch"))
    else if !entry.handle.actions.allows action then
      (m, .error (.handleInvalid "action not allowed"))
    else (m, .ok entry.handle)

/-- The content of the file, if it is the one the handle was issued for. -/
def resolveForRead (fs : FileSystem) (now : Nat) (device session token : String)
    (action : GrantAction) : FileGrantManager × Except FilesError (List UInt8) :=
  match m.lookupValid now device session token action with
  | (m, .error error) => (m, .error error)
  | (m, .ok handle) =>
    match fs handle.root handle.relativePath with
    | .error error => (m, .error error)
    | .ok file =>
      if file.identity ≠ handle.identity ∨ file.content.length ≠ handle.size ∨
          file.mtimeNs ≠ handle.mtimeNs then
        (m, .error .changed)
      else (m, .ok file.content)

end FileGrantManager

/-! ## The Bridge -/

/-- The headers about a transfer, from `download_meta_headers`. -/
structure TransferHeaders where
  contentType : String
  disposition : String
  totalLength : Nat
  contentRange : Option HttpRange
deriving DecidableEq

def downloadMetaHeaders (slice : FileSlice) : TransferHeaders where
  contentType := slice.contentType
  disposition := if slice.inline then "inline" else "attachment"
  totalLength := slice.totalLen
  contentRange := slice.contentRange

/-- An offer is rejected, or the Bridge streams a body to the Relay. -/
inductive BridgeAnswer where
  | rejected (code : StableErrorCode)
  | streams (headers : TransferHeaders) (body : List UInt8)
deriving DecidableEq

/-- `handle_download` of a session, with a Bridge that reaches the Relay. -/
def handleDownload (infer : List UInt8 → Option String) (fs : FileSystem) (now : Nat)
    (device session token : String) (range : OfferRange) (m : FileGrantManager) : Option BridgeAnswer :=
  match m.acquireTransferSlot device with
  | .error error => some (.rejected error.stableCode)
  | .ok m =>
    let (m, first) := m.resolveForRead fs now device session token .preview
    -- a file that may not be previewed is opened for a download
    let verified : Except FilesError (List UInt8 × TransferMode) :=
      match first with
      | .ok content => .ok (content, .preview)
      | .error _ => (m.resolveForRead fs now device session token .download).2.map (·, .download)
    match verified with
    | .error error => some (.rejected error.stableCode)
    | .ok (content, mode) =>
      (rangeHeaderOf range content.length).bind fun header =>
        (openSlice infer content mode header).map fun opened =>
          match opened with
          | .error error => .rejected error.stableCode
          | .ok slice => .streams (downloadMetaHeaders slice) slice.body

/-! ## The Relay -/

inductive Endpoint where
  | preview
  | download
deriving DecidableEq

def Endpoint.disposition : Endpoint → String
  | preview => "inline"
  | download => "attachment"

def sanitizeName (name : String) : String :=
  let graphic (c : Char) : Bool := 0x21 ≤ c.toNat && c.toNat ≤ 0x7E && c.toNat ≠ 0x22 && c.toNat ≠ 0x5C
  let safe := ((trim name.toList).filter graphic).take 128
  if safe = [] then "file" else .ofList safe

structure FileRequest where
  fileHandle : String
  fileName : Option String
  range : RangeRequest

structure FileResponse where
  status : Nat
  contentType : String
  disposition : String
  contentRange : Option HttpRange
  contentLength : Option Nat
  body : List UInt8
deriving DecidableEq

/-- The answer to the browser, with what the Bridge streams. -/
def fileResponse (endpoint : Endpoint) (fileName : Option String) (headers : TransferHeaders)
    (body : List UInt8) : FileResponse where
  status := if headers.contentRange.isSome then 206 else 200
  contentType := if headers.contentType = "" then "application/octet-stream" else headers.contentType
  disposition :=
    if headers.disposition = "" then
      endpoint.disposition ++ "; filename=\"" ++ sanitizeName (fileName.getD "file") ++ "\""
    else headers.disposition
  contentRange := headers.contentRange
  contentLength := if headers.contentRange.isSome then none else some headers.totalLength
  body := body

/-- A device with the session of the request and its Bridge. -/
structure FileBridge where
  infer : List UInt8 → Option String
  fs : FileSystem
  device : String
  session : String
  manager : FileGrantManager

/-- `start_download` at a time of the Bridge's clock. -/
def startDownload (bridge : FileBridge) (now : Nat) (endpoint : Endpoint) (request : FileRequest) :
    Option (Except StableErrorCode FileResponse) :=
  if request.fileHandle = "" then some (.error .fileHandleInvalid)
  else
    match parseRange request.range.body request.range.headerText with
    | .error code => some (.error code)
    | .ok range =>
      (handleDownload bridge.infer bridge.fs now bridge.device bridge.session request.fileHandle
          (offerRange range) bridge.manager).map fun answer =>
        match answer with
        | .rejected code => .error code
        | .streams headers body => .ok (fileResponse endpoint request.fileName headers body)

/-! ## What is served -/

/-- The handle is one of the session's, has time left, and its file has not changed. -/
structure FileBridge.Grants (bridge : FileBridge) (now : Nat) (token : String) (actions : GrantActions)
    (content : List UInt8) : Prop where
  named : token ≠ ""
  slot : (bridge.manager.transfers.get? bridge.device).getD 0 < maxActiveTransfersPerDevice
  entry : ∃ entry, bridge.manager.grants.get? token = some entry ∧ now < entry.deadline ∧
    entry.handle.deviceId = bridge.device ∧ entry.handle.session = bridge.session ∧
    entry.handle.actions = actions ∧ entry.handle.size = content.length ∧
    bridge.fs entry.handle.root entry.handle.relativePath =
      .ok ⟨entry.handle.identity, entry.handle.mtimeNs, content⟩

/-- The range of the request can be met by a file of this size. -/
def RangeRequest.Met (request : RangeRequest) (total : Nat) : Prop :=
  ∃ range header, parseRange request.body request.headerText = .ok range ∧
    rangeHeaderOf (offerRange range) total = some header ∧
    ∀ text, header = some text → ∃ part n, parseSingleRange text total = some (.ok part) ∧
      part.len = some n

/-- The request is answered with the file, and the answer says how to show it. -/
def Served (answer : Option (Except StableErrorCode FileResponse)) (disposition : String) : Prop :=
  ∃ response, answer = some (.ok response) ∧ disposition.toList <+: response.disposition.toList

/-- What the endpoints are to do: the download is an attachment, and the preview is inline exactly
when it is allowed and the content may be shown. -/
def EndpointsMeet (bridge : FileBridge) (now : Nat) (request : FileRequest) (actions : GrantActions)
    (content : List UInt8) : Prop :=
  Served (startDownload bridge now .download request) "attachment" ∧
  (Served (startDownload bridge now .preview request) "inline" ↔
    actions.allows .preview = true ∧
      checkPreview (classify bridge.infer (content.take sniffPrefixBytes)) content.length = .ok ())

/-! ## One request -/

variable {bridge : FileBridge} {now : Nat} {request : FileRequest} {actions : GrantActions}
  {content : List UInt8} {mode : TransferMode} {classification : Classification}
  {endpoint : Endpoint} {disposition : String}

theorem FileBridge.Grants.resolve (grants : bridge.Grants now request.fileHandle actions content)
    {m : FileGrantManager} (same : m.grants = bridge.manager.grants) (action : GrantAction) :
    m.resolveForRead bridge.fs now bridge.device bridge.session request.fileHandle action =
      (m, if actions.allows action then .ok content else .error (.handleInvalid "action not allowed")) := by
  obtain ⟨entry, found, alive, device, session, allowed, size, opened⟩ := grants.entry
  have valid : ¬ (entry.handle.deviceId ≠ bridge.device ∨ entry.handle.session ≠ bridge.session) := by
    simp [device, session]
  unfold FileGrantManager.resolveForRead FileGrantManager.lookupValid
  rw [same, found]
  dsimp only
  rw [if_neg (Nat.not_le.mpr alive), if_neg valid, allowed]
  cases allows : actions.allows action with
  | false => simp
  | true => simp [opened, size]

/-- The mode in which the Bridge opens a file that may be downloaded. -/
def offeredMode (actions : GrantActions) : TransferMode :=
  if actions.allows .preview then .preview else .download

theorem handleDownload_of_grants (grants : bridge.Grants now request.fileHandle actions content)
    (downloads : actions.allows .download = true) (range : OfferRange) :
    handleDownload bridge.infer bridge.fs now bridge.device bridge.session request.fileHandle range
        bridge.manager =
      (rangeHeaderOf range content.length).bind fun header =>
        (openSlice bridge.infer content (offeredMode actions) header).map fun opened =>
          match opened with
          | .error error => .rejected error.stableCode
          | .ok slice => .streams (downloadMetaHeaders slice) slice.body := by
  obtain ⟨m, slot, same⟩ : ∃ m, bridge.manager.acquireTransferSlot bridge.device = .ok m ∧
      m.grants = bridge.manager.grants := ⟨_, if_neg (Nat.not_le.mpr grants.slot), rfl⟩
  rw [handleDownload, slot]
  dsimp only
  rw [grants.resolve same, grants.resolve same, offeredMode]
  cases allows : actions.allows .preview with
  | false => simp [downloads, Except.map]
  | true => simp

theorem openSlice_met (checked : checkFile bridge.infer mode content = .ok classification)
    {header : Option (List Char)}
    (met : ∀ text, header = some text → ∃ part n,
      parseSingleRange text content.length = some (.ok part) ∧ part.len = some n) :
    ∃ slice, openSlice bridge.infer content mode header = some (.ok slice) ∧
      slice.inline = classification.isInline := by
  cases header with
  | none =>
    obtain ⟨slice, whole, -, inline⟩ := openSlice_whole checked
    exact ⟨slice, whole, inline⟩
  | some text =>
    obtain ⟨part, n, parsed, length⟩ := met text rfl
    rw [openSlice, checked]
    dsimp only
    rw [parsed]
    dsimp only
    rw [length]
    exact ⟨_, rfl, rfl⟩

/-- A file that passes its checks is served, and shown as its classification says. -/
theorem startDownload_ok (grants : bridge.Grants now request.fileHandle actions content)
    (downloads : actions.allows .download = true) (met : request.range.Met content.length)
    (checked : checkFile bridge.infer (offeredMode actions) content = .ok classification) :
    ∃ response, startDownload bridge now endpoint request = some (.ok response) ∧
      response.disposition = if classification.isInline then "inline" else "attachment" := by
  obtain ⟨range, header, parsed, written, part⟩ := met
  obtain ⟨slice, opened, inline⟩ := openSlice_met checked part
  rw [startDownload, if_neg grants.named, parsed]
  dsimp only
  rw [handleDownload_of_grants grants downloads, written, Option.bind_some, opened]
  refine ⟨_, rfl, ?_⟩
  cases kind : classification.isInline <;> simp [fileResponse, downloadMetaHeaders, inline, kind]

theorem startDownload_error {error : FilesError}
    (grants : bridge.Grants now request.fileHandle actions content)
    (downloads : actions.allows .download = true) (met : request.range.Met content.length)
    (failed : checkFile bridge.infer (offeredMode actions) content = .error error) :
    startDownload bridge now endpoint request = some (.error error.stableCode) := by
  obtain ⟨range, header, parsed, written, -⟩ := met
  rw [startDownload, if_neg grants.named, parsed]
  dsimp only
  rw [handleDownload_of_grants grants downloads, written, Option.bind_some, openSlice_error failed]
  rfl

theorem served_iff (grants : bridge.Grants now request.fileHandle actions content)
    (downloads : actions.allows .download = true) (met : request.range.Met content.length)
    (checked : checkFile bridge.infer (offeredMode actions) content = .ok classification) :
    Served (startDownload bridge now endpoint request) disposition ↔
      disposition.toList <+: (if classification.isInline then "inline" else "attachment").toList := by
  obtain ⟨response, answer, shown⟩ :
      ∃ response, startDownload bridge now endpoint request = some (.ok response) ∧
        response.disposition = if classification.isInline then "inline" else "attachment" :=
    startDownload_ok grants downloads met checked
  rw [← shown]
  constructor
  · intro ⟨other, same, begins⟩
    rw [answer] at same
    cases same
    exact begins
  · intro begins
    exact ⟨response, answer, begins⟩

/-! ## The checks of a file -/

theorem checkFile_download (bridge : FileBridge) (small : content.length ≤ maxDownloadBytes) :
    checkFile bridge.infer .download content =
      .ok (classify bridge.infer (content.take sniffPrefixBytes)) := by
  have size : checkDownload content.length = .ok () := if_neg (Nat.not_lt.mpr small)
  simp [checkFile, size, bind, Except.bind, pure, Except.pure]

theorem checkFile_preview (bridge : FileBridge) (small : content.length ≤ maxDownloadBytes) :
    checkFile bridge.infer .preview content =
      ((checkPreview (classify bridge.infer (content.take sniffPrefixBytes)) content.length).mapError
        .notPreviewable).map fun _ => classify bridge.infer (content.take sniffPrefixBytes) := by
  have size : checkDownload content.length = .ok () := if_neg (Nat.not_lt.mpr small)
  simp only [checkFile, size, bind, Except.bind, if_true, pure, Except.pure]
  cases checkPreview (classify bridge.infer (content.take sniffPrefixBytes)) content.length <;> rfl

/-- Only what is shown inline passes the check of a preview. -/
theorem isInline_of_checkPreview {size : Nat} (passes : checkPreview classification size = .ok ()) :
    classification.isInline = true := by
  cases classification with
  | attachment mime => cases passes
  | inlineText => rfl
  | inlineImage mime => rfl
  | inlinePdf => rfl

/-- **Endpoints**: for every grant that allows the download, every file of at most the download
limit and every request whose range the file can meet, the download is served as an attachment
and the preview inline exactly when it is allowed and the content may be shown, exactly when
the grant allows no preview and the content is of no kind that is shown inline. -/
theorem endpoints_meet_iff (bridge : FileBridge) (now : Nat) (request : FileRequest)
    (actions : GrantActions) (content : List UInt8)
    (grants : bridge.Grants now request.fileHandle actions content)
    (downloads : actions.allows .download = true) (small : content.length ≤ maxDownloadBytes)
    (met : request.range.Met content.length) :
    EndpointsMeet bridge now request actions content ↔
      actions.allows .preview = false ∧
        (classify bridge.infer (content.take sniffPrefixBytes)).isInline = false := by
  cases allows : actions.allows .preview with
  | false =>
    have mode : offeredMode actions = .download := by simp [offeredMode, allows]
    have checked := mode ▸ checkFile_download bridge small
    rw [EndpointsMeet, served_iff grants downloads met checked, served_iff grants downloads met checked,
      allows]
    cases kind : (classify bridge.infer (content.take sniffPrefixBytes)).isInline with
    | false => simp
    | true => simp
  | true =>
    have mode : offeredMode actions = .preview := by simp [offeredMode, allows]
    have checked := mode ▸ checkFile_preview bridge small
    refine ⟨fun ⟨attached, _⟩ => ?_, fun both => (by cases both.1)⟩
    cases passes : checkPreview (classify bridge.infer (content.take sniffPrefixBytes)) content.length with
    | error reason =>
      rw [passes] at checked
      obtain ⟨response, answer, -⟩ := attached
      rw [startDownload_error grants downloads met checked] at answer
      cases answer
    | ok _ =>
      rw [passes] at checked
      rw [served_iff grants downloads met checked, isInline_of_checkPreview passes] at attached
      exact absurd attached (by decide)

/-- A Bridge with one handle, for a file with this content. -/
def oneHandle (actions : GrantActions) (content : List UInt8) : FileBridge where
  infer _ := none
  fs _ _ := .ok ⟨⟨1, 1⟩, 0, content⟩
  device := "device"
  session := "session"
  manager :=
    { grants := (∅ : FiniteMap String GrantEntry).insert "handle"
        ⟨⟨"device", "session", "/uploads", "payload", actions, ⟨1, 1⟩, content.length, 0⟩, 600⟩
      transfers := ∅ }

/-- It is asked for, without a range. -/
def handleRequest : FileRequest := ⟨"handle", none, ⟨none, none⟩⟩

theorem oneHandle_grants (actions : GrantActions) (content : List UInt8) :
    (oneHandle actions content).Grants 0 "handle" actions content where
  named := by decide
  slot := by
    show 0 < maxActiveTransfersPerDevice
    decide
  entry := ⟨_, FiniteMap.get?_insert_self _ _ _, Nat.succ_pos _, rfl, rfl, rfl, rfl, rfl⟩

theorem handleRequest_met (total : Nat) : handleRequest.range.Met total :=
  ⟨none, none, rfl, rfl, fun _ same => (by cases same)⟩

theorem endpoints_meet_binary : EndpointsMeet (oneHandle ⟨2⟩ [0x80]) 0 handleRequest ⟨2⟩ [0x80] :=
  (endpoints_meet_iff (oneHandle ⟨2⟩ [0x80]) 0 handleRequest ⟨2⟩ [0x80] (oneHandle_grants _ _)
    (by decide) (by decide) (handleRequest_met _)).mpr ⟨by decide, by decide +kernel⟩

/-- With all actions, as for an upload, a text is downloaded inline, and a binary file is not
served at all. -/
theorem upload_not_attached :
    ¬ EndpointsMeet (oneHandle .all [0x68, 0x69]) 0 handleRequest .all [0x68, 0x69] ∧
    startDownload (oneHandle .all [0x80]) 0 .download handleRequest =
      some (.error .fileTypeNotPreviewable) := by
  constructor
  · intro ⟨attached, _⟩
    have checked : checkFile (oneHandle .all [0x68, 0x69]).infer (offeredMode .all) [0x68, 0x69] =
        .ok .inlineText := by decide +kernel
    rw [served_iff (oneHandle_grants _ _) (by decide) (handleRequest_met _) checked] at attached
    exact absurd attached (by decide)
  · have failed : checkFile (oneHandle .all [0x80]).infer (offeredMode .all) [0x80] =
        .error (.notPreviewable .typeUnsupported) := by decide +kernel
    exact startDownload_error (oneHandle_grants _ _) (by decide) (handleRequest_met _) failed

end AgentConsole.Transfer
