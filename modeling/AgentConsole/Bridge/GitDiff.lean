import AgentConsole.Bridge.GitStatus

/-! # The diff of one file

`git diff` is read up to one byte more than the limit, which shows whether there is more, and
cut at the limit.  Whether the diff is text is asked of the bytes that are left.

What git does is a parameter: what each read of its output brings, and how it ends.  The scope
checks of a query come before it. -/

namespace AgentConsole.Bridge

open AgentConsole.Lib

/-- How a command ends: `child.wait` within the timeout. -/
inductive GitExit where
  | timedOut
  | waitFailed
  | exited (success : Bool) (code : Option Int)
deriving DecidableEq

/-- A run of git.  A read that fails is `none`, and after the last one the pipe is closed. -/
structure GitProcess where
  spawned : Bool
  stdout : List (Option (List UInt8))
  /-- What `stderr_brief` makes of the other pipe, unless reading it failed. -/
  stderrBrief : Option String
  exit : GitExit
deriving DecidableEq

structure CmdOutput where
  success : Bool
  code : Option Int
  stdout : List UInt8
  stderrBrief : String
  stdoutTruncated : Bool
deriving DecidableEq

def CmdOutput.failed (out : CmdOutput) (operation : String) : GitError :=
  .gitFailed operation out.code out.stderrBrief

structure GitService where
  timeoutSecs : Nat
  maxOutput : Nat
deriving DecidableEq

structure GitFileDiff where
  relativePath : String
  staged : Bool
  truncated : Bool
  content : List UInt8
deriving DecidableEq

structure GitFileDiffData where
  relativePath : String
  staged : Bool
  patchText : String
  truncated : Bool
  totalBytes : Nat
  binary : Bool
deriving DecidableEq

/-- The loop of `spawn_pipe_reader`: what was read, and whether the cap cut it. -/
def readPipe (cap : Nat) (buf : List UInt8) :
    List (Option (List UInt8)) → Except GitError (List UInt8 × Bool)
  | [] => .ok (buf, false)
  | none :: _ => .error .spawn
  | some chunk :: reads =>
    if chunk.length = 0 then .ok (buf, false)
    else if cap < buf.length + chunk.length then
      .ok (buf ++ chunk.take (cap - buf.length), true)
    else readPipe cap (buf ++ chunk) reads

namespace GitService

variable (git : GitService)

def executeCapped (process : GitProcess) (operation : String) (cap : Nat) :
    Except GitError CmdOutput :=
  if !process.spawned then .error .spawn
  else
    match process.exit with
    | .timedOut => .error (.timeout operation git.timeoutSecs)
    | .waitFailed => .error .spawn
    | .exited success code => do
      let (stdout, stdoutTruncated) ← readPipe cap [] process.stdout
      match process.stderrBrief with
      | none => .error .spawn
      | some stderrBrief => .ok { success, code, stdout, stderrBrief, stdoutTruncated }

/-- `scope` is what `authorize_worktree` and `validate_relative_path` say. -/
def readFileDiff (scope : Except GitError Unit) (process : GitProcess) (relativePath : String)
    (staged : Bool) : Except GitError GitFileDiff := do
  scope
  let op := if staged then "diff-cached" else "diff"
  let out ← git.executeCapped process op (git.maxOutput + 1)
  if !out.success && !out.stdoutTruncated then .error (out.failed op)
  else
    .ok
      { relativePath, staged
        truncated := out.stdoutTruncated || decide (git.maxOutput < out.stdout.length)
        content := out.stdout.take git.maxOutput }

def queryGitFileDiff (scope : Except GitError Unit) (process : GitProcess)
    (relativePath : String) (staged : Bool) : Except GitError GitFileDiffData := do
  let result ← git.readFileDiff scope process relativePath staged
  let binary := !Utf8.isValid result.content
  .ok
    { relativePath := result.relativePath
      staged := result.staged
      patchText := if binary then "" else fromUtf8Lossy result.content
      truncated := result.truncated
      totalBytes := result.content.length
      binary }

end GitService

/-! ## Reading the pipe -/

/-- However the output is cut, the reader keeps what fits the cap. -/
theorem readPipe_chunks (cap : Nat) (buf : List UInt8) (chunks : List (List UInt8))
    (filled : ∀ chunk ∈ chunks, chunk ≠ []) (room : buf.length ≤ cap) :
    readPipe cap buf (chunks.map some) =
      .ok ((buf ++ chunks.flatten).take cap, decide (cap < (buf ++ chunks.flatten).length)) := by
  induction chunks generalizing buf with
  | nil => simp [readPipe, List.take_of_length_le room, room]
  | cons chunk chunks inductionHypothesis =>
    have some_ : chunk.length ≠ 0 := by
      simpa using filled chunk List.mem_cons_self
    rw [List.map_cons, readPipe, if_neg some_, List.flatten_cons, ← List.append_assoc]
    split
    · next more =>
      -- the cap lies in this chunk
      have shorter : cap ≤ (buf ++ chunk).length := by
        rw [List.length_append]
        omega
      have exceeds : cap < (buf ++ chunk ++ chunks.flatten).length := by
        rw [List.length_append, List.length_append]
        omega
      rw [List.take_append_of_le_length shorter, List.take_append, List.take_of_length_le room,
        decide_eq_true exceeds]
    · next fits =>
      exact inductionHypothesis (buf ++ chunk) (fun c member => filled c (List.mem_cons_of_mem _ member))
        (by rw [List.length_append]; omega)

/-! ## The answer -/

/-- A run of git that writes an output in chunks: it succeeds unless the reader stops first. -/
structure GitProcess.Writes (process : GitProcess) (cap : Nat) (output : List UInt8)
    (chunks : List (List UInt8)) : Prop where
  spawned : process.spawned = true
  stdout : process.stdout = chunks.map some
  filled : ∀ chunk ∈ chunks, chunk ≠ []
  whole : chunks.flatten = output
  stderr : process.stderrBrief.isSome = true
  exit : ∃ success code, process.exit = .exited success code ∧ (output.length ≤ cap → success = true)

variable {git : GitService} {process : GitProcess} {output : List UInt8}
  {chunks : List (List UInt8)}

theorem readFileDiff_writes (writes : process.Writes (git.maxOutput + 1) output chunks)
    (relativePath : String) (staged : Bool) :
    git.readFileDiff (.ok ()) process relativePath staged =
      .ok ⟨relativePath, staged, decide (git.maxOutput < output.length),
        output.take git.maxOutput⟩ := by
  obtain ⟨success, code, exit, succeeds⟩ := writes.exit
  obtain ⟨brief, stderr⟩ := Option.isSome_iff_exists.mp writes.stderr
  have read := readPipe_chunks (git.maxOutput + 1) [] chunks writes.filled (Nat.zero_le _)
  rw [← writes.stdout, List.nil_append, writes.whole] at read
  have accepted : (!success && !decide (git.maxOutput + 1 < output.length)) = false := by
    rcases Nat.lt_or_ge (git.maxOutput + 1) output.length with more | fits
    · simp [more]
    · simp [succeeds fits]
  have cut : (output.take (git.maxOutput + 1)).take git.maxOutput = output.take git.maxOutput := by
    rw [List.take_take]
    congr 1
    omega
  have longer : (decide (git.maxOutput + 1 < output.length) ||
      decide (git.maxOutput < (output.take (git.maxOutput + 1)).length)) =
        decide (git.maxOutput < output.length) := by
    rw [List.length_take, Bool.eq_iff_iff]
    simp only [Bool.or_eq_true, decide_eq_true_eq]
    omega
  simp only [GitService.readFileDiff, GitService.executeCapped, bind, Except.bind, writes.spawned,
    exit, read, stderr, accepted, cut, longer, Bool.not_true, Bool.false_eq_true, if_false]

theorem queryGitFileDiff_writes (writes : process.Writes (git.maxOutput + 1) output chunks)
    (relativePath : String) (staged : Bool) :
    git.queryGitFileDiff (.ok ()) process relativePath staged =
      .ok
        { relativePath, staged
          patchText := if !Utf8.isValid (output.take git.maxOutput) then ""
            else fromUtf8Lossy (output.take git.maxOutput)
          truncated := decide (git.maxOutput < output.length)
          totalBytes := (output.take git.maxOutput).length
          binary := !Utf8.isValid (output.take git.maxOutput) } := by
  simp [GitService.queryGitFileDiff, readFileDiff_writes writes, bind, Except.bind]

/-- The answer is text, and the text is the beginning of the output. -/
def AnswersText (text : List Char) (answer : Except GitError GitFileDiffData) : Prop :=
  ∃ data, answer = .ok data ∧ data.binary = false ∧
    ∃ front, front <+: text ∧ data.patchText = String.ofList front

theorem answersText_iff (writes : process.Writes (git.maxOutput + 1) output chunks)
    (relativePath : String) (staged : Bool) {text : List Char} (encoded : output = Utf8.encode text) :
    AnswersText text (git.queryGitFileDiff (.ok ()) process relativePath staged) ↔
      ∀ byte, output[git.maxOutput]? = some byte → Utf8.isContinuation byte = false := by
  have boundary := @Utf8.isValid_take text git.maxOutput
  rw [← encoded] at boundary
  rw [← boundary, AnswersText, queryGitFileDiff_writes writes]
  constructor
  · intro ⟨data, is, text_, _⟩
    cases is
    simpa using text_
  · intro valid
    obtain ⟨front, same⟩ := Utf8.isValid_iff.mp valid
    have begins : front <+: text := by
      apply Utf8.prefix_of_encode
      rw [← same, ← encoded]
      exact List.take_prefix _ _
    refine ⟨_, rfl, by simp [valid], front, begins, ?_⟩
    rw [same] at valid ⊢
    simp [valid, fromUtf8Lossy]

/-- **Diffs**: for every output and every way it comes through the pipe, `read_file_diff` has
its first `max_output` bytes, and `truncated` exactly when there are more; and an output that
is text is answered as text, by its beginning, exactly when it is not longer than the limit
or the byte at the limit begins a character. -/
theorem file_diff_text (git : GitService) (process : GitProcess) (output : List UInt8)
    (chunks : List (List UInt8)) (writes : process.Writes (git.maxOutput + 1) output chunks)
    (relativePath : String) (staged : Bool) :
    git.readFileDiff (.ok ()) process relativePath staged =
      .ok ⟨relativePath, staged, decide (git.maxOutput < output.length),
        output.take git.maxOutput⟩ ∧
    ∀ text, output = Utf8.encode text →
      (AnswersText text (git.queryGitFileDiff (.ok ()) process relativePath staged) ↔
        ∀ byte, output[git.maxOutput]? = some byte → Utf8.isContinuation byte = false) := by
  constructor
  · exact readFileDiff_writes writes relativePath staged
  · intro text encoded
    exact answersText_iff writes relativePath staged encoded

/-- A limit of one byte, and an output of one character of two bytes. -/
def cutCharacter : GitProcess where
  spawned := true
  stdout := [some [0xC3, 0xA9]]
  stderrBrief := some ""
  exit := .exited true (some 0)

theorem cutCharacter_writes : cutCharacter.Writes (1 + 1) (Utf8.encode ['é']) [[0xC3, 0xA9]] where
  spawned := rfl
  stdout := rfl
  filled := by decide
  whole := by decide
  stderr := rfl
  exit := ⟨true, some 0, rfl, fun _ => rfl⟩

theorem file_diff_text_cut :
    ¬ AnswersText ['é'] ((GitService.mk 5 1).queryGitFileDiff (.ok ()) cutCharacter "a" false) := by
  rw [@answersText_iff (GitService.mk 5 1) _ _ _ cutCharacter_writes "a" false _ rfl]
  intro boundary
  exact absurd (boundary 0xA9 (by decide)) (by decide)

/-- With one more byte the character is whole. -/
theorem file_diff_text_whole :
    AnswersText ['é'] ((GitService.mk 5 2).queryGitFileDiff (.ok ()) cutCharacter "a" false) := by
  have writes : cutCharacter.Writes (2 + 1) (Utf8.encode ['é']) [[0xC3, 0xA9]] :=
    { cutCharacter_writes with exit := ⟨true, some 0, rfl, fun _ => rfl⟩ }
  refine ((file_diff_text (GitService.mk 5 2) cutCharacter _ _ writes "a" false).2 ['é'] rfl).mpr ?_
  intro byte found
  cases found

end AgentConsole.Bridge
