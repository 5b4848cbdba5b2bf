import AgentConsole.Bridge.GitStatus
import AgentConsole.Lib.Lines
import AgentConsole.Transfer.FilePolicy

/-! # What git's output can break

The parsers of git's output with every step that can panic: an index or a slice out of range,
a string cut inside a character, and a sum of lines beyond 64 bits.  The status parser goes
through the bytes by positions; it never leaves them, and reads what `parseStatusZ` reads. -/

namespace AgentConsole.Bridge.GitPanics

open AgentConsole.Lib
open AgentConsole.Transfer (parseU64 u64Add)

inductive Panic where
  | outOfRange
  | charBoundary
  | overflow
deriving DecidableEq, Repr

/-- `&bytes[start..stop]` -/
def slice (bytes : List UInt8) (start stop : Nat) : Except Panic (List UInt8) :=
  if start ≤ stop ∧ stop ≤ bytes.length then .ok ((bytes.drop start).take (stop - start))
  else .error .outOfRange

/-- `bytes[pos]` -/
def byteAt (bytes : List UInt8) (pos : Nat) : Except Panic UInt8 :=
  match bytes[pos]? with
  | some byte => .ok byte
  | none => .error .outOfRange

/-! ## The status -/

def unterminated : GitError := .gitFailed "status" none "unterminated porcelain path"

def malformed : GitError := .gitFailed "status" none "malformed porcelain status entry"

def readNulField (bytes : List UInt8) (start : Nat) :
    Except Panic (Except GitError (String × Nat)) := do
  let rest ← slice bytes start bytes.length
  match rest.findIdx? (· == 0) with
  | none => return .error unterminated
  | some rel =>
    let field ← slice bytes start (start + rel)
    return .ok (fromUtf8Lossy field, start + rel + 1)

theorem slice_rest {bytes : List UInt8} {start : Nat} (inside : start ≤ bytes.length) :
    slice bytes start bytes.length = .ok (bytes.drop start) := by
  unfold slice
  rw [if_pos ⟨inside, le_rfl⟩]
  congr 1
  apply List.take_of_length_le
  rw [List.length_drop]

/-- From a position inside the bytes, a field is read as from what is left there. -/
theorem readNulField_eq {bytes : List UInt8} {start : Nat} (inside : start ≤ bytes.length) :
    readNulField bytes start =
      .ok ((Bridge.readNulField (bytes.drop start)).map fun (field, rest) =>
        (field, bytes.length - rest.length)) := by
  unfold readNulField Bridge.readNulField
  rw [slice_rest inside]
  simp only [bind, Except.bind, pure, Except.pure]
  cases found : (bytes.drop start).findIdx? (· == 0) with
  | none => rfl
  | some rel =>
    have within := (List.findIdx?_eq_some_iff_getElem.mp found).1
    rw [List.length_drop] at within
    have field : slice bytes start (start + rel) = .ok ((bytes.drop start).take rel) := by
      unfold slice
      rw [if_pos ⟨by omega, by omega⟩, Nat.add_sub_cancel_left]
    have next : bytes.length - ((bytes.drop start).drop (rel + 1)).length = start + rel + 1 := by
      simp only [List.length_drop]
      omega
    simp only [field, Except.map, next]

/-- A field ends behind its beginning and inside the bytes, where the rest begins. -/
theorem readNulField_ok {bytes : List UInt8} {start next : Nat} {field : String}
    (inside : start ≤ bytes.length) (read : readNulField bytes start = .ok (.ok (field, next))) :
    start < next ∧ next ≤ bytes.length ∧
      Bridge.readNulField (bytes.drop start) = .ok (field, bytes.drop next) := by
  rw [readNulField_eq inside] at read
  cases found : Bridge.readNulField (bytes.drop start) with
  | error error => simp [found, Except.map] at read
  | ok pair =>
    obtain ⟨field', rest⟩ := pair
    obtain ⟨raw, -, shape, -⟩ := Bridge.readNulField_ok found
    simp only [found, Except.map, Except.ok.injEq, Prod.mk.injEq] at read
    obtain ⟨rfl, rfl⟩ := read
    have lengths := congrArg List.length shape
    simp only [List.length_drop, List.length_append, List.length_cons] at lengths
    refine ⟨by omega, by omega, ?_⟩
    have rest_ : bytes.drop (bytes.length - rest.length) = rest := by
      have position : bytes.length - rest.length = start + (raw ++ [0]).length := by
        simp only [List.length_append, List.length_singleton]
        omega
      have split : bytes.drop start = (raw ++ [0]) ++ rest := by
        rw [shape, List.append_assoc]
        rfl
      rw [position, ← List.drop_drop, split, List.drop_left]
    rw [rest_]

/-- The loop of `parse_status_z`. -/
def statusLoop (bytes : List UInt8) (pos : Nat) (entries : List FileEntry) :
    Except Panic (Except GitError (List FileEntry)) :=
  if _left : pos + 3 ≤ bytes.length then
    match byteAt bytes pos, byteAt bytes (pos + 1), byteAt bytes (pos + 2) with
    | .ok x, .ok y, .ok blank =>
      if blank ≠ ' '.toUInt8 then .ok (.error malformed)
      else
        match _path : readNulField bytes (pos + 3) with
        | .error panic => .error panic
        | .ok (.error error) => .ok (.error error)
        | .ok (.ok (path, next)) =>
          if isRename x then
            match _old : readNulField bytes next with
            | .error panic => .error panic
            | .ok (.error error) => .ok (.error error)
            | .ok (.ok (old, next)) =>
              statusLoop bytes next
                (entries ++ [⟨path, some old, Char.ofNat x.toNat, Char.ofNat y.toNat⟩])
          else
            statusLoop bytes next
              (entries ++ [⟨path, none, Char.ofNat x.toNat, Char.ofNat y.toNat⟩])
    | _, _, _ => .error .outOfRange
  else .ok (.ok entries)
termination_by bytes.length - pos
decreasing_by
  · have first := readNulField_ok (by omega) _path
    have second := readNulField_ok first.2.1 _old
    omega
  · have first := readNulField_ok (by omega) _path
    omega

def parseStatusZ (bytes : List UInt8) : Except Panic (Except GitError (List FileEntry)) :=
  statusLoop bytes 0 []

theorem readNulField_error {bytes : List UInt8} {start : Nat} {error : GitError}
    (inside : start ≤ bytes.length) (read : readNulField bytes start = .ok (.error error)) :
    Bridge.readNulField (bytes.drop start) = .error error := by
  rw [readNulField_eq inside] at read
  cases found : Bridge.readNulField (bytes.drop start) with
  | error failure =>
    rw [found] at read
    cases read
    rfl
  | ok pair =>
    rw [found] at read
    cases read

theorem readNulField_no_panic {bytes : List UInt8} {start : Nat} {panic : Panic}
    (inside : start ≤ bytes.length) : readNulField bytes start ≠ .error panic := by
  rw [readNulField_eq inside]
  intro read
  cases read

section Entry

variable {x y : UInt8} {rest next : List UInt8} {path : String}

theorem readPaths_error {error : GitError} (read : Bridge.readNulField rest = .error error) :
    readPaths x y rest = .error error := by
  simp [readPaths, read, bind, Except.bind]

theorem readPaths_plain (plain : isRename x = false)
    (read : Bridge.readNulField rest = .ok (path, next)) :
    readPaths x y rest =
      .ok (⟨path, none, Char.ofNat x.toNat, Char.ofNat y.toNat⟩, next) := by
  simp [readPaths, read, plain, bind, Except.bind]

theorem readPaths_renamed_error {error : GitError} (renamed : isRename x = true)
    (read : Bridge.readNulField rest = .ok (path, next))
    (old : Bridge.readNulField next = .error error) : readPaths x y rest = .error error := by
  simp [readPaths, read, renamed, old, bind, Except.bind, Except.map]

theorem readPaths_renamed {last : List UInt8} {old : String} (renamed : isRename x = true)
    (read : Bridge.readNulField rest = .ok (path, next))
    (read_ : Bridge.readNulField next = .ok (old, last)) :
    readPaths x y rest =
      .ok (⟨path, some old, Char.ofNat x.toNat, Char.ofNat y.toNat⟩, last) := by
  simp [readPaths, read, renamed, read_, bind, Except.bind, Except.map]

theorem parseStatusZ_entry {entry : FileEntry} (read : readPaths x y rest = .ok (entry, next)) :
    Bridge.parseStatusZ (x :: y :: ' '.toUInt8 :: rest) =
      (Bridge.parseStatusZ next).map (entry :: ·) := by
  rw [Bridge.parseStatusZ, if_neg (by simp)]
  split
  · rename_i failed
    rw [read] at failed
    cases failed
  · rename_i found
    rw [read] at found
    cases found
    rfl

theorem parseStatusZ_error {error : GitError} (read : readPaths x y rest = .error error) :
    Bridge.parseStatusZ (x :: y :: ' '.toUInt8 :: rest) = .error error := by
  rw [Bridge.parseStatusZ, if_neg (by simp)]
  split
  · rename_i failed
    rw [read] at failed
    cases failed
    rfl
  · rename_i found
    rw [read] at found
    cases found

end Entry

/-- Entries read one after the other. -/
theorem map_append {entries : List FileEntry} {entry : FileEntry}
    (parsed : Except GitError (List FileEntry)) :
    parsed.map (entries ++ [entry] ++ ·) = (parsed.map (entry :: ·)).map (entries ++ ·) := by
  cases parsed <;> simp [Except.map]

/-- The positions stay inside the bytes, and what is read is what `Bridge.parseStatusZ` reads of
the bytes that are left. -/
theorem statusLoop_eq (bytes : List UInt8) (pos : Nat) (entries : List FileEntry)
    (inside : pos ≤ bytes.length) :
    statusLoop bytes pos entries =
      .ok ((Bridge.parseStatusZ (bytes.drop pos)).map (entries ++ ·)) := by
  induction left : bytes.length - pos using Nat.strong_induction_on generalizing pos entries with
  | _ left_ inductionHypothesis =>
    subst left
    rw [statusLoop]
    by_cases more : pos + 3 ≤ bytes.length
    · obtain ⟨x, y, blank, here⟩ : ∃ x y blank,
          bytes.drop pos = x :: y :: blank :: bytes.drop (pos + 3) := by
        refine ⟨bytes[pos], bytes[pos + 1], bytes[pos + 2], ?_⟩
        rw [List.drop_eq_getElem_cons, List.drop_eq_getElem_cons, List.drop_eq_getElem_cons]
      have byte : ∀ i, byteAt bytes (pos + i) =
          match (bytes.drop pos)[i]? with
          | some byte => .ok byte
          | none => .error .outOfRange := by
        intro i
        rw [List.getElem?_drop]
        rfl
      have first : byteAt bytes pos = .ok x := by simpa [here] using byte 0
      have second : byteAt bytes (pos + 1) = .ok y := by simpa [here] using byte 1
      have third : byteAt bytes (pos + 2) = .ok blank := by simpa [here] using byte 2
      rw [dif_pos more, first, second, third, here]
      simp only
      by_cases is : blank = ' '.toUInt8
      · rw [if_neg (not_not_intro is)]
        subst is
        split
        · rename_i panic path
          exact absurd path (readNulField_no_panic more)
        · rename_i error path
          rw [parseStatusZ_error (readPaths_error (readNulField_error more path))]
          rfl
        · rename_i path next read
          obtain ⟨forward, inside', found⟩ := readNulField_ok more read
          split
          · rename_i renamed
            split
            · rename_i panic old
              exact absurd old (readNulField_no_panic inside')
            · rename_i error old
              rw [parseStatusZ_error
                (readPaths_renamed_error renamed found (readNulField_error inside' old))]
              rfl
            · rename_i old last read_
              obtain ⟨forward', inside'', found'⟩ := readNulField_ok inside' read_
              rw [inductionHypothesis _ (by omega) _ _ inside'' rfl,
                parseStatusZ_entry (readPaths_renamed renamed found found'), map_append]
          · rename_i plain
            rw [inductionHypothesis _ (by omega) _ _ inside' rfl,
              parseStatusZ_entry (readPaths_plain (Bool.eq_false_iff.mpr plain) found), map_append]
      · rw [if_pos is, Bridge.parseStatusZ, if_pos is]
        rfl
    · rw [dif_neg more, Bridge.parseStatusZ_short (by rw [List.length_drop]; omega)]
      simp [Except.map]

/-- The status parser does not panic, and reads what `Bridge.parseStatusZ` reads. -/
theorem parseStatusZ_eq (bytes : List UInt8) :
    parseStatusZ bytes = .ok (Bridge.parseStatusZ bytes) := by
  have loop := statusLoop_eq bytes 0 [] (Nat.zero_le _)
  rw [List.drop_zero] at loop
  rw [parseStatusZ, loop]
  cases Bridge.parseStatusZ bytes <;> rfl

/-! ## The numbers of lines -/

structure Numstat where
  added : Nat
  deleted : Nat
  binary : List (List Char)
deriving DecidableEq

/-- A line without its line feed and the carriage return before it. -/
def withoutEnding (line : List Char) : List Char :=
  match line.reverse with
  | '\n' :: '\r' :: rest => rest.reverse
  | '\n' :: rest => rest.reverse
  | _ => line

/-- `str::lines` -/
def textLines (text : List Char) : List (List Char) := (lines '\n' text).map withoutEnding

/-- `splitn(3, '\t')`, if there are three parts. -/
def splitTabs (line : List Char) : Option (List Char × List Char × List Char) :=
  match takeLine '\t' line with
  | (added, some rest) =>
    match takeLine '\t' rest with
    | (deleted, some path) => some (added, deleted, path)
    | (_, none) => none
  | (_, none) => none

/-- `*total += n` for a field that is a number. -/
def count (total : Nat) (field : List Char) : Except Panic Nat :=
  match parseU64 field with
  | none => .ok total
  | some n =>
    match u64Add total n with
    | some sum => .ok sum
    | none => .error .overflow

/-- The loop body of `parse_numstat`. -/
def numstatLine (st : Numstat) (line : List Char) : Except Panic Numstat :=
  if line.isEmpty then .ok st
  else
    match splitTabs line with
    | none => .ok st
    | some (a, d, path) =>
      if a = ['-'] ∨ d = ['-'] then .ok { st with binary := st.binary ++ [path] }
      else do
        let added ← count st.added a
        let deleted ← count st.deleted d
        return { st with added, deleted }

def parseNumstat (bytes : List UInt8) (st : Numstat) : Except Panic Numstat :=
  (textLines (Utf8.lossy bytes)).foldlM numstatLine st

/-- The two fields of a line that are counted. -/
def columns (line : List Char) : Option (List Char × List Char) :=
  (splitTabs line).bind fun (a, d, _) => if a = ['-'] ∨ d = ['-'] then none else some (a, d)

def addedOf (line : List Char) : Nat := (columns line).elim 0 fun c => (parseU64 c.1).getD 0

def deletedOf (line : List Char) : Nat := (columns line).elim 0 fun c => (parseU64 c.2).getD 0

theorem count_ok (total : Nat) (field : List Char) (small : total < 2 ^ 64) :
    count total field =
      if total + (parseU64 field).getD 0 < 2 ^ 64 then .ok (total + (parseU64 field).getD 0)
      else .error .overflow := by
  unfold count
  cases parseU64 field with
  | none =>
    show _ = if total + 0 < 2 ^ 64 then _ else _
    rw [if_pos (show total + 0 < 2 ^ 64 from small)]
    rfl
  | some n =>
    simp only [Option.getD_some, u64Add]
    by_cases fits : total + n < 2 ^ 64
    · rw [if_pos fits, if_pos fits]
    · rw [if_neg fits, if_neg fits]

/-- A line adds its two numbers, unless a sum overflows. -/
theorem numstatLine_eq (st : Numstat) (line : List Char) (added : st.added < 2 ^ 64)
    (deleted : st.deleted < 2 ^ 64) :
    if st.added + addedOf line < 2 ^ 64 ∧ st.deleted + deletedOf line < 2 ^ 64 then
      ∃ binary, numstatLine st line = .ok ⟨st.added + addedOf line, st.deleted + deletedOf line, binary⟩
    else numstatLine st line = .error .overflow := by
  unfold numstatLine addedOf deletedOf columns
  by_cases empty : line.isEmpty
  · have none_ : line = [] := List.isEmpty_iff.mp empty
    subst none_
    show if st.added + 0 < 2 ^ 64 ∧ st.deleted + 0 < 2 ^ 64 then _ else _
    rw [if_pos ⟨added, deleted⟩]
    exact ⟨st.binary, rfl⟩
  · rw [if_neg empty]
    cases splitTabs line with
    | none =>
      show if st.added + 0 < 2 ^ 64 ∧ st.deleted + 0 < 2 ^ 64 then _ else _
      rw [if_pos ⟨added, deleted⟩]
      exact ⟨st.binary, rfl⟩
    | some parts =>
      obtain ⟨a, d, path⟩ := parts
      simp only [Option.bind_some]
      by_cases dash : a = ['-'] ∨ d = ['-']
      · simp only [if_pos dash, Option.elim_none, Nat.add_zero]
        rw [if_pos ⟨added, deleted⟩]
        exact ⟨_, rfl⟩
      · simp only [if_neg dash, Option.elim_some, count_ok _ _ added, count_ok _ _ deleted]
        by_cases first : st.added + (parseU64 a).getD 0 < 2 ^ 64
        · by_cases second : st.deleted + (parseU64 d).getD 0 < 2 ^ 64
          · rw [if_pos ⟨first, second⟩, if_pos first, if_pos second]
            exact ⟨_, rfl⟩
          · rw [if_neg (fun both => second both.2), if_pos first, if_neg second]
            rfl
        · rw [if_neg (fun both => first both.1), if_neg first]
          rfl

/-- The sums only grow, so no line overflows exactly when the last sums do not. -/
theorem numstat_total (lines : List (List Char)) (st : Numstat) (added : st.added < 2 ^ 64)
    (deleted : st.deleted < 2 ^ 64) :
    (∃ result, lines.foldlM numstatLine st = .ok result) ↔
      st.added + (lines.map addedOf).sum < 2 ^ 64 ∧
        st.deleted + (lines.map deletedOf).sum < 2 ^ 64 := by
  induction lines generalizing st with
  | nil =>
    simp only [List.foldlM_nil, List.map_nil, List.sum_nil, Nat.add_zero]
    exact ⟨fun _ => ⟨added, deleted⟩, fun _ => ⟨st, rfl⟩⟩
  | cons line lines inductionHypothesis =>
    have here := numstatLine_eq st line added deleted
    simp only [List.foldlM_cons, List.map_cons, List.sum_cons]
    split at here
    · rename_i fits
      obtain ⟨binary, here⟩ := here
      have rest := inductionHypothesis
        ⟨st.added + addedOf line, st.deleted + deletedOf line, binary⟩ fits.1 fits.2
      simp only [here, bind, Except.bind, Nat.add_assoc] at rest ⊢
      exact rest
    · rename_i beyond
      simp only [here, bind, Except.bind]
      constructor
      · intro ⟨result, failed⟩
        cases failed
      · intro ⟨first, second⟩
        exact absurd ⟨by omega, by omega⟩ beyond

/-! ## The first line of an error -/

/-- `String::truncate`, which cuts only between characters. -/
def truncate (text : List Char) (n : Nat) : Except Panic (List Char) :=
  let bytes := Utf8.encode text
  if bytes.length < n then .ok text
  else
    match bytes[n]? with
    | none => .ok text
    | some byte =>
      if Utf8.isContinuation byte then .error .charBoundary else .ok (Utf8.lossy (bytes.take n))

/-- The first line that is not empty, read as text. -/
def stderrLine (stderr : List UInt8) : List Char :=
  Utf8.lossy (((stderr.splitOn 10).find? fun line => !line.isEmpty).getD [])

def stderrBrief (stderr : List UInt8) : Except Panic (List Char) :=
  let s := stderrLine stderr
  if (Utf8.encode s).length > 200 then truncate s 200 else .ok s

/-- No character of the line lies on both sides of its first 200 bytes. -/
def Cuttable (stderr : List UInt8) : Prop :=
  ∀ byte, (Utf8.encode (stderrLine stderr))[200]? = some byte → Utf8.isContinuation byte = false

theorem stderrBrief_iff (stderr : List UInt8) :
    (∃ brief, stderrBrief stderr = .ok brief) ↔ Cuttable stderr := by
  unfold stderrBrief Cuttable truncate
  by_cases long : (Utf8.encode (stderrLine stderr)).length > 200
  · simp only [if_pos long, if_neg (show ¬ (Utf8.encode (stderrLine stderr)).length < 200 by omega)]
    obtain ⟨byte, at_⟩ : ∃ byte, (Utf8.encode (stderrLine stderr))[200]? = some byte :=
      ⟨_, List.getElem?_eq_getElem long⟩
    rw [at_]
    cases inside : Utf8.isContinuation byte <;> simp [inside]
  · simp only [if_neg long]
    have none_ : (Utf8.encode (stderrLine stderr))[200]? = none :=
      List.getElem?_eq_none (by omega)
    simp [none_]

/-! ## All parsers together -/

/-- None of the parsers panics on these outputs. -/
structure Safe (status numstat stderr : List UInt8) (added deleted : UInt64)
    (binary : List (List Char)) : Prop where
  entries : ∃ result, parseStatusZ status = .ok result
  fields : ∀ start : Fin (status.length + 1), ∃ result, readNulField status start = .ok result
  lines : ∃ result, parseNumstat numstat ⟨added.toNat, deleted.toNat, binary⟩ = .ok result
  brief : ∃ result, stderrBrief stderr = .ok result

/-- The status never panics, the numbers of lines do not exactly when both sums fit 64 bits, and
an error does not exactly when its line can be cut after 200 bytes. -/
theorem git_output_safe (status numstat stderr : List UInt8) (added deleted : UInt64)
    (binary : List (List Char)) :
    Safe status numstat stderr added deleted binary ↔
      (added.toNat + ((textLines (Utf8.lossy numstat)).map addedOf).sum < 2 ^ 64 ∧
        deleted.toNat + ((textLines (Utf8.lossy numstat)).map deletedOf).sum < 2 ^ 64) ∧
      Cuttable stderr := by
  have total := numstat_total (textLines (Utf8.lossy numstat))
    ⟨added.toNat, deleted.toNat, binary⟩ added.toNat_lt deleted.toNat_lt
  rw [← stderrBrief_iff, ← total]
  constructor
  · intro safe
    exact ⟨safe.lines, safe.brief⟩
  · intro ⟨counted, brief⟩
    exact ⟨⟨_, parseStatusZ_eq status⟩,
      fun start => ⟨_, readNulField_eq (Nat.lt_succ_iff.mp start.2)⟩, counted, brief⟩

/-- A message of 199 letters and one character of three bytes. -/
def longMessage : List UInt8 := List.replicate 199 0x61 ++ [0xE4, 0xB8, 0xAD]

theorem longMessage_panics : stderrBrief longMessage = .error .charBoundary := by decide +kernel

theorem git_output_panics :
    ¬ ∀ (status numstat stderr : List UInt8) (added deleted : UInt64)
      (binary : List (List Char)), Safe status numstat stderr added deleted binary := by
  intro every
  obtain ⟨brief, ok⟩ := (every [] [] longMessage 0 0 []).brief
  rw [longMessage_panics] at ok
  cases ok

end AgentConsole.Bridge.GitPanics
