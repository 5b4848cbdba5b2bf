import AgentConsole.Lib.Run
import AgentConsole.Files.Grants

/-! # The sink of an upload

`UploadSink` writes the chunks of one upload into a directory of its own.  Each call to the
file system succeeds or fails as the environment has it; what a failed call was to create or
to remove is as it was before.  `written` is a ghost: the bytes of the chunks that were
accepted. -/

namespace AgentConsole.Files

open AgentConsole.Lib
open AgentConsole.Transfer (FilesError sniffPrefixBytes)

/-! ## The sink -/

namespace Upload

def maxUploadBytes : Nat := 20 * 1024 * 1024

end Upload

/-- Which of the two are there: the directory of the upload, and `payload` in it. -/
structure UploadDisk where
  dir : Bool := false
  payload : Bool := false
  deriving DecidableEq

structure UploadSink where
  dir : Path
  /-- `file` is `Some`. -/
  file : Bool
  prefixBytes : List UInt8
  size : Nat
  maxBytes : Nat
  finished : Bool

structure UploadCleanup where
  dir : Path
  expiresAt : Nat

structure UploadOutcome where
  handle : FileHandle
  size : Nat
  mime : Option String
  cleanup : UploadCleanup

/-- Which calls of `create` succeed, in their order. -/
structure CreateCalls where
  rootMade : Bool := true
  rootPermissions : Bool := true
  dirMade : Bool := true
  dirPermissions : Bool := true
  fileMade : Bool := true
  filePermissions : Bool := true

/-- Which calls of `Drop` succeed where they can. -/
structure DropCalls where
  fileRemoved : Bool := true
  dirRemoved : Bool := true

/-- `remove_dir_all`: a failure leaves the directory, with or without the payload. -/
inductive RemoveAll where
  | done
  | failed (payloadLeft : Bool)
  deriving DecidableEq

structure FinishRequest where
  deviceId : String
  session : String
  ttl : Nat

/-- `sync_all`, the calls of `issue`, and the two times of day. -/
structure FinishCalls where
  synced : Bool
  issue : IssueCalls
  now : Nat
  systemTime : Nat
  dropped : DropCalls

namespace UploadSink

def create (dir : Path) (maxBytes : Nat) (calls : CreateCalls) :
    Except FilesError UploadSink × UploadDisk :=
  if Upload.maxUploadBytes < maxBytes then
    (.error (.internal "upload limit above first-version cap"), {})
  else if !calls.rootMade then (.error .io, {})
  else if !calls.rootPermissions then (.error .io, {})
  else if !calls.dirMade then (.error .io, {})
  -- from here on an early return leaves what was made: there is no sink yet to drop
  else if !calls.dirPermissions then (.error .io, { dir := true })
  else if !calls.fileMade then (.error .io, { dir := true })
  else if !calls.filePermissions then (.error .io, { dir := true, payload := true })
  else
    (.ok { dir, file := true, prefixBytes := [], size := 0, maxBytes, finished := false },
      { dir := true, payload := true })

variable (sink : UploadSink)

def writeChunk (data : List UInt8) (written : Bool) : Except FilesError Unit × UploadSink :=
  if sink.finished then (.error (.internal "upload sink already finished"), sink)
  else if sink.maxBytes < sink.size + data.length then (.error .tooLarge, sink)
  else
    let prefixBytes :=
      if sink.prefixBytes.length < sniffPrefixBytes then
        sink.prefixBytes ++
          data.take (min (sniffPrefixBytes - sink.prefixBytes.length) data.length)
      else sink.prefixBytes
    let kept := { sink with prefixBytes }
    if !sink.file then (.error (.internal "sink closed"), kept)
    else if !written then (.error .io, kept)
    else (.ok (), { kept with size := kept.size + data.length })

/-- `Drop`: the directory goes only once it is empty. -/
def dropped (disk : UploadDisk) (calls : DropCalls) : UploadDisk :=
  if sink.finished then disk
  else
    let payload := disk.payload && !calls.fileRemoved
    { dir := disk.dir && (payload || !calls.dirRemoved), payload }

/-- What `finish` asks the grants for. -/
def issueRequest (request : FinishRequest) : IssueRequest :=
  ⟨request.deviceId, request.session, sink.dir, [.normal "payload"], .all, .sessionUpload,
    request.ttl⟩

/-- The sink is dropped at the end, whatever came of it. -/
def finish (infer : List UInt8 → Option String) (disk : UploadDisk) (grants : FileGrantManager)
    (request : FinishRequest) (calls : FinishCalls) :
    Except FilesError UploadOutcome × UploadDisk × FileGrantManager :=
  if !sink.file then
    (.error (.internal "sink closed"), sink.dropped disk calls.dropped, grants)
  else if !calls.synced then
    (.error .io, { sink with file := false }.dropped disk calls.dropped, grants)
  else
    let finished := { sink with file := false, finished := true }
    match grants.issue calls.now (finished.issueRequest request) calls.issue with
    | (.error error, grants) => (.error error, finished.dropped disk calls.dropped, grants)
    | (.ok handle, grants) =>
      (.ok ⟨handle, finished.size, infer finished.prefixBytes,
          ⟨finished.dir, calls.systemTime + request.ttl⟩⟩,
        finished.dropped disk calls.dropped, grants)

/-- What fails is not reported. -/
def abort (disk : UploadDisk) : RemoveAll → UploadDisk
  | .done => { dir := false, payload := false }
  | .failed payloadLeft => { disk with payload := disk.payload && payloadLeft }

end UploadSink

/-! ## The life of an upload -/

structure Upload where
  /-- `none` once it is finished, aborted or dropped, or if it could not be created. -/
  sink : Option UploadSink
  disk : UploadDisk
  grants : FileGrantManager
  granted : Option UploadOutcome := none
  written : List UInt8 := []

inductive UploadEvent where
  | write (data : List UInt8) (written : Bool)
  | finish (request : FinishRequest) (calls : FinishCalls)
  | abort (removed : RemoveAll)
  | drop (calls : DropCalls)

namespace Upload

def start (dir : Path) (maxBytes : Nat) (calls : CreateCalls) (grants : FileGrantManager) : Upload :=
  match UploadSink.create dir maxBytes calls with
  | (.ok sink, disk) => { sink := some sink, disk, grants }
  | (.error _, disk) => { sink := none, disk, grants }

variable (infer : List UInt8 → Option String)

/-- The sink is gone after any call that consumes it. -/
def step (s : Upload) (event : UploadEvent) : Upload :=
  match s.sink with
  | none => s
  | some sink =>
    match event with
    | .write data written =>
      match sink.writeChunk data written with
      | (.ok (), sink) => { s with sink := some sink, written := s.written ++ data }
      | (.error _, sink) => { s with sink := some sink }
    | .finish request calls =>
      match sink.finish infer s.disk s.grants request calls with
      | (.ok outcome, disk, grants) =>
        { s with sink := none, disk, grants, granted := some outcome }
      | (.error _, disk, grants) => { s with sink := none, disk, grants }
    | .abort removed => { s with sink := none, disk := UploadSink.abort s.disk removed }
    | .drop calls => { s with sink := none, disk := sink.dropped s.disk calls }

/-- The accepted size keeps to the maximum, the prefix is the first of the accepted bytes, and
an upload that ended without a grant has left nothing. -/
structure Tidy (maxBytes : Nat) (s : Upload) : Prop where
  bounded : s.written.length ≤ maxBytes
  sized : ∀ sink ∈ s.sink, sink.size = s.written.length
  reported : ∀ outcome ∈ s.granted, outcome.size = s.written.length
  kept : ∀ sink ∈ s.sink, sink.prefixBytes = s.written.take (min sniffPrefixBytes sink.size)
  clean : s.sink = none → s.granted = none → s.disk = { dir := false, payload := false }

/-- Nothing fails once the directory is made. -/
def Whole (maxBytes : Nat) (calls : CreateCalls) : Prop :=
  maxBytes ≤ maxUploadBytes → calls.rootMade = true → calls.rootPermissions = true →
    calls.dirMade = true → calls.dirPermissions = true ∧ calls.fileMade = true ∧
      calls.filePermissions = true

/-- The step does not fail where the sink does not clean up: a chunk that is written in vain is
empty, refused or behind the prefix, what is synced gets its grant, and what is to be removed
can be. -/
def Handled (s : Upload) (event : UploadEvent) : Prop :=
  ∀ sink ∈ s.sink,
    match event with
    | .write data written =>
      written = true ∨ data = [] ∨ sink.maxBytes < sink.size + data.length ∨
        sniffPrefixBytes ≤ sink.size
    | .finish request calls =>
      if calls.synced then
        ∃ handle, issueHandle (sink.issueRequest request) calls.issue = .ok handle
      else calls.dropped.fileRemoved = true ∧ calls.dropped.dirRemoved = true
    | .abort removed => removed = .done
    | .drop calls => calls.fileRemoved = true ∧ calls.dirRemoved = true

/-! ## One step -/

/-- A live sink is open, unfinished and within its maximum, and its file is on the disk. -/
structure Inv (maxBytes : Nat) (s : Upload) : Prop where
  bounded : s.written.length ≤ maxBytes
  reported : ∀ outcome ∈ s.granted, outcome.size = s.written.length
  live : ∀ sink ∈ s.sink, sink.file = true ∧ sink.finished = false ∧ sink.maxBytes = maxBytes ∧
    sink.size = s.written.length ∧ s.granted = none ∧ s.disk = { dir := true, payload := true }

/-- The prefix of the kept bytes and the chunk is the prefix of all that was offered. -/
theorem prefix_extended (written data : List UInt8) :
    (if (written.take sniffPrefixBytes).length < sniffPrefixBytes then
        written.take sniffPrefixBytes ++ data.take
          (min (sniffPrefixBytes - (written.take sniffPrefixBytes).length) data.length)
      else written.take sniffPrefixBytes) =
      (written ++ data).take sniffPrefixBytes := by
  have whole : data.take (min (sniffPrefixBytes - (written.take sniffPrefixBytes).length)
      data.length) = data.take (sniffPrefixBytes - (written.take sniffPrefixBytes).length) := by
    rw [List.take_eq_take_iff]
    omega
  rw [whole, List.take_append, List.length_take]
  by_cases short : written.length < sniffPrefixBytes
  · have least : min sniffPrefixBytes written.length = written.length := by omega
    rw [least, if_pos short]
  · have none_ : sniffPrefixBytes - written.length = 0 := by omega
    rw [if_neg (by omega), none_, List.take_zero, List.append_nil]

/-- More bytes change the prefix unless there are none, or it is full. -/
theorem prefix_unchanged_iff (written data : List UInt8) :
    (written ++ data).take sniffPrefixBytes = written.take sniffPrefixBytes ↔
      data = [] ∨ sniffPrefixBytes ≤ written.length := by
  constructor
  · intro same
    have lengths := congrArg List.length same
    simp only [List.length_take, List.length_append] at lengths
    by_cases full : sniffPrefixBytes ≤ written.length
    · exact .inr full
    · have : data.length = 0 := by omega
      exact .inl (List.length_eq_zero_iff.mp this)
  · rintro (none_ | full)
    · simp [none_]
    · exact List.take_append_of_le_length full

/-- What a chunk does to an open sink. -/
theorem writeChunk_eq {sink : UploadSink} (open_ : sink.file = true)
    (unfinished : sink.finished = false) (data : List UInt8) (written : Bool) :
    sink.writeChunk data written =
      if sink.maxBytes < sink.size + data.length then (.error .tooLarge, sink)
      else
        let prefixBytes :=
          if sink.prefixBytes.length < sniffPrefixBytes then
            sink.prefixBytes ++
              data.take (min (sniffPrefixBytes - sink.prefixBytes.length) data.length)
          else sink.prefixBytes
        if written then (.ok (), { sink with prefixBytes, size := sink.size + data.length })
        else (.error .io, { sink with prefixBytes }) := by
  cases written <;> simp [UploadSink.writeChunk, unfinished, open_]

theorem start_inv (dir : Path) (maxBytes : Nat) (calls : CreateCalls) (grants : FileGrantManager) :
    (start dir maxBytes calls grants).Inv maxBytes := by
  unfold start
  split
  next sink disk created =>
    -- the only way to a sink is through all six calls
    unfold UploadSink.create at created
    repeat' split at created
    all_goals simp only [Prod.mk.injEq, reduceCtorEq, false_and, Except.ok.injEq] at created
    obtain ⟨rfl, rfl⟩ := created
    exact ⟨Nat.zero_le _, by simp, by simp⟩
  next => exact ⟨Nat.zero_le _, by simp, by simp⟩

theorem step_inv {maxBytes : Nat} {s : Upload} (event : UploadEvent) (inv : s.Inv maxBytes) :
    (s.step infer event).Inv maxBytes := by
  unfold step
  split
  next => exact inv
  next sink live =>
    obtain ⟨open_, unfinished, limit, size, ungranted, disk⟩ := inv.live sink live
    have gone (disk : UploadDisk) (grants : FileGrantManager) :
        Inv maxBytes { s with sink := none, disk, grants } :=
      ⟨inv.bounded, inv.reported, by simp⟩
    cases event with
    | write data written =>
      simp only [writeChunk_eq open_ unfinished]
      by_cases large : sink.maxBytes < sink.size + data.length
      · simp only [large, if_true]
        exact ⟨inv.bounded, inv.reported, by simp [open_, unfinished, limit, size, ungranted, disk]⟩
      · cases written with
        | true =>
          simp only [large, if_false, if_true]
          refine ⟨?_, by simp [ungranted], by simp [open_, unfinished, limit, size, ungranted, disk]⟩
          rw [List.length_append]
          omega
        | false =>
          simp only [large, if_false, Bool.false_eq_true]
          exact ⟨inv.bounded, inv.reported,
            by simp [open_, unfinished, limit, size, ungranted, disk]⟩
    | finish request calls =>
      simp only [UploadSink.finish, open_, Bool.not_true, Bool.false_eq_true, if_false]
      cases calls.synced with
      | false => exact gone _ _
      | true =>
        simp only [Bool.not_true, Bool.false_eq_true, if_false, FileGrantManager.issue]
        cases issueHandle ({ sink with file := false, finished := true }.issueRequest request)
            calls.issue with
        | error error => exact gone _ _
        | ok handle => exact ⟨inv.bounded, by simp [size], by simp⟩
    | abort removed => exact gone _ _
    | drop calls => exact gone _ _

/-- A step of a tidy upload leaves it tidy exactly if it is handled. -/
theorem step_tidy_iff {maxBytes : Nat} {s : Upload} (event : UploadEvent) (inv : s.Inv maxBytes)
    (tidy : s.Tidy maxBytes) : (s.step infer event).Tidy maxBytes ↔ s.Handled event := by
  have after := step_inv infer event inv
  cases live : s.sink with
  | none =>
    have same : s.step infer event = s := by rw [step, live]
    have handled : s.Handled event := by simp [Handled, live]
    rw [same]
    exact ⟨fun _ => handled, fun _ => tidy⟩
  | some sink =>
    obtain ⟨open_, unfinished, limit, size, ungranted, disk⟩ := inv.live sink live
    have kept := tidy.kept sink live
    rw [size] at kept
    have full : min sniffPrefixBytes s.written.length = s.written.length ∨
        min sniffPrefixBytes s.written.length = sniffPrefixBytes := by omega
    have taken : s.written.take (min sniffPrefixBytes s.written.length) =
        s.written.take sniffPrefixBytes := by
      rw [List.take_eq_take_iff]
      omega
    rw [taken] at kept
    -- a sink that goes without a grant leaves the upload tidy exactly if the disk is empty
    have gone (disk : UploadDisk) (grants : FileGrantManager) :
        Tidy maxBytes { s with sink := none, disk, grants } ↔
          disk = { dir := false, payload := false } := by
      constructor
      · intro tidy
        exact tidy.clean rfl ungranted
      · intro empty
        exact ⟨inv.bounded, by simp, inv.reported, by simp, fun _ _ => empty⟩
    have removed (calls : DropCalls) : sink.dropped s.disk calls =
        { dir := false, payload := false } ↔
          calls.fileRemoved = true ∧ calls.dirRemoved = true := by
      obtain ⟨fileRemoved, dirRemoved⟩ := calls
      cases fileRemoved <;> cases dirRemoved <;> simp [UploadSink.dropped, unfinished, disk]
    simp only [step, live] at after ⊢
    cases event with
    | write data written =>
      simp only [writeChunk_eq open_ unfinished, Handled, live, Option.mem_def, Option.some.injEq,
        forall_eq'] at after ⊢
      by_cases large : sink.maxBytes < sink.size + data.length
      · simp only [large, if_true, true_or, or_true, iff_true] at after ⊢
        have same : { s with sink := some sink } = s := by rw [← live]
        rw [same]
        exact tidy
      · rw [kept, prefix_extended]
        cases written with
        | true =>
          simp only [large, if_false, if_true, true_or, iff_true]
          refine ⟨?_, by simp [size], by simp [ungranted], ?_, by simp⟩
          · rw [List.length_append]
            omega
          · simp only [Option.mem_def, Option.some.injEq, forall_eq', size]
            rw [List.take_eq_take_iff, List.length_append]
            omega
        | false =>
          simp only [large, if_false, Bool.false_eq_true, false_or]
          rw [size, ← prefix_unchanged_iff]
          constructor
          · intro tidy
            have := tidy.kept _ rfl
            simp only [taken] at this
            exact this
          · intro same
            refine ⟨inv.bounded, by simp, by simp [ungranted], ?_, by simp⟩
            simp only [Option.mem_def, Option.some.injEq, forall_eq', taken]
            exact same
    | finish request calls =>
      simp only [UploadSink.finish, open_, Bool.not_true, Bool.false_eq_true, if_false, Handled,
        live, Option.mem_def, Option.some.injEq, forall_eq'] at after ⊢
      cases calls.synced with
      | false =>
        simp only [Bool.not_false, if_true, Bool.false_eq_true, if_false]
        rw [gone, ← removed]
        rfl
      | true =>
        simp only [Bool.not_true, Bool.false_eq_true, if_false, if_true, FileGrantManager.issue]
        have request_ : { sink with file := false, finished := true }.issueRequest request =
            sink.issueRequest request := rfl
        rw [request_]
        cases issueHandle (sink.issueRequest request) calls.issue with
        | error error =>
          -- the sink counts as finished, so its drop removes nothing
          simp only [gone, reduceCtorEq, exists_false, iff_false]
          simp [UploadSink.dropped, disk]
        | ok handle =>
          simp only [Except.ok.injEq, exists_eq', iff_true]
          exact ⟨inv.bounded, by simp, by simp [size], by simp, by simp⟩
    | abort removal =>
      simp only [gone, Handled, live, Option.mem_def, Option.some.injEq, forall_eq']
      cases removal <;> simp [UploadSink.abort, disk]
    | drop calls =>
      simp only [gone, removed, Handled, live, Option.mem_def, Option.some.injEq, forall_eq']

/-! ## Every run -/

theorem start_tidy_iff (dir : Path) (maxBytes : Nat) (calls : CreateCalls)
    (grants : FileGrantManager) :
    (start dir maxBytes calls grants).Tidy maxBytes ↔ Whole maxBytes calls := by
  have clean_iff (disk : UploadDisk) :
      Tidy maxBytes { sink := none, disk, grants } ↔ disk = { dir := false, payload := false } := by
    constructor
    · intro tidy
      exact tidy.clean rfl rfl
    · intro empty
      exact ⟨Nat.zero_le _, by simp, by simp, by simp, fun _ _ => empty⟩
  obtain ⟨rootMade, rootPermissions, dirMade, dirPermissions, fileMade, filePermissions⟩ := calls
  by_cases large : maxUploadBytes < maxBytes
  · simp [start, UploadSink.create, large, clean_iff, Whole, Nat.not_le.mpr large]
  · have within : maxBytes ≤ maxUploadBytes := by omega
    simp only [start, UploadSink.create, large, if_false, Whole, within, forall_true_left]
    cases rootMade <;> cases rootPermissions <;> cases dirMade <;> cases dirPermissions <;>
      cases fileMade <;> cases filePermissions <;> simp [clean_iff]
    -- all six calls succeed: the sink is new
    exact ⟨Nat.zero_le _, by simp, by simp, by simp, by simp⟩

/-- An upload stays tidy at every point of its life exactly if it is created whole and each of
its steps is handled. -/
theorem upload_tidy_iff (dir : Path) (maxBytes : Nat) (calls : CreateCalls)
    (grants : FileGrantManager) (events : List UploadEvent) :
    (∀ before after, events = before ++ after →
        (before.foldl (step infer) (start dir maxBytes calls grants)).Tidy maxBytes) ↔
      Whole maxBytes calls ∧
        Along (step infer) Handled (start dir maxBytes calls grants) events := by
  have run (tidy : (start dir maxBytes calls grants).Tidy maxBytes) :
      (∀ before after, events = before ++ after →
          (before.foldl (step infer) (start dir maxBytes calls grants)).Tidy maxBytes) ↔
        Along (step infer) Handled (start dir maxBytes calls grants) events :=
    Along.iff_reached (fun s event inv => step_inv infer event inv)
      (fun s event inv tidy => step_tidy_iff infer event inv tidy)
      (start_inv dir maxBytes calls grants) tidy
  constructor
  · intro every
    have first := every [] events rfl
    exact ⟨(start_tidy_iff dir maxBytes calls grants).mp first, (run first).mp every⟩
  · rintro ⟨whole, handled⟩
    exact (run ((start_tidy_iff dir maxBytes calls grants).mpr whole)).mpr handled

/-- Whatever fails, no more than the maximum is accepted. -/
theorem written_le (dir : Path) (maxBytes : Nat) (calls : CreateCalls) (grants : FileGrantManager)
    (events : List UploadEvent) :
    (events.foldl (step infer) (start dir maxBytes calls grants)).written.length ≤ maxBytes := by
  have along : Inv maxBytes (events.foldl (step infer) (start dir maxBytes calls grants)) :=
    Along.reached (fun s event inv _ => step_inv infer event inv)
      (start_inv dir maxBytes calls grants) (Along.of_true (start dir maxBytes calls grants) events)
  exact along.bounded

/-! ## An upload without a session -/

/-- One byte for a session without an id: the grant is refused after the file is synced. -/
def unnamedSession : List UploadEvent :=
  [.write [0x61] true,
    .finish ⟨"d-1", "", 600⟩
      ⟨true, ⟨Grants.onePayload, Grants.onePayload, Grants.onePayload, Grants.onePayload, "t-1", 0⟩,
        0, 0, {}⟩]

/-- Directory and payload stay. -/
theorem unnamed_session_left :
    ¬ (unnamedSession.foldl (step fun _ => none) (start [.rootDir, .normal "u"] 8 {} {})).Tidy 8 := by
  intro tidy
  exact absurd (tidy.clean rfl rfl) (by decide)

end Upload

end AgentConsole.Files
