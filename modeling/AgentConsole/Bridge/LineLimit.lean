import AgentConsole.Lib.Lines
import AgentConsole.Lib.Utf8Decode

/-! # Lines of the hook socket

A hook sends one line.  `readLimitedLine` collects what the reads of the socket bring until a
newline is among it, and gives up once it holds more than `maxFrameBytes`.  It only looks at
what it holds after a read without a newline, so the bytes that arrive together with the
newline are never counted. -/

namespace AgentConsole.Bridge.LineLimit

open AgentConsole.Lib

def maxFrameBytes : Nat := 256 * 1024

def newline : UInt8 := 10

inductive ReadLineError where
  | oversize
  | io
deriving DecidableEq, Repr

/-- How the socket ends: closed by the peer, or with an error. -/
inductive SocketEnd where
  | closed
  | failed
deriving DecidableEq, Repr

/-- What a read of the socket brings: at least one byte. -/
abbrev Chunk := { bytes : List UInt8 // bytes ≠ [] }

/-- A `BufReader`: what it has read and not given out, and what later reads will bring. -/
structure BufReader where
  buffered : List UInt8
  reads : List Chunk
  ends : SocketEnd

namespace BufReader

/-- All bytes still to come. -/
def remaining (reader : BufReader) : List UInt8 :=
  reader.buffered ++ (reader.reads.map (·.1)).flatten

/-- `fill_buf`: read if nothing is buffered.  At the end of a closed socket nothing is buffered
afterwards; `none` is an error. -/
def fillBuf (reader : BufReader) : Option BufReader :=
  if reader.buffered = [] then
    match reader.reads with
    | chunk :: rest => some { reader with buffered := chunk.1, reads := rest }
    | [] =>
      match reader.ends with
      | .closed => some reader
      | .failed => none
  else some reader

def consume (reader : BufReader) (n : Nat) : BufReader :=
  { reader with buffered := reader.buffered.drop n }

theorem fillBuf_remaining {reader filled : BufReader} (fills : reader.fillBuf = some filled) :
    filled.remaining = reader.remaining := by
  unfold fillBuf at fills
  split at fills
  · rename_i empty
    split at fills
    · rename_i chunk rest reads
      cases fills
      simp [remaining, empty, reads]
    · split at fills
      · cases fills
        rfl
      · cases fills
  · cases fills
    rfl

theorem consume_shorter {reader : BufReader} (present : reader.buffered ≠ []) :
    (reader.consume reader.buffered.length).remaining.length < reader.remaining.length := by
  have positive := List.length_pos_iff.mpr present
  simp only [remaining, consume, List.drop_length, List.length_append, List.length_nil]
  omega

end BufReader

/-- `String::from_utf8` -/
def fromUtf8 (bytes : List UInt8) : Option (List Char) :=
  if Utf8.isValid bytes then some (Utf8.lossy bytes) else none

def decodeLine (bytes : List UInt8) : Except ReadLineError (List Char) :=
  match fromUtf8 bytes with
  | some text => .ok text
  | none => .error .io

/-- The loop of `read_limited_line`, which has put `buf` aside. -/
def readLoop (buf : List UInt8) (reader : BufReader) :
    Except ReadLineError (List Char) × BufReader :=
  match _ : reader.fillBuf with
  | none => (.error .io, reader)
  | some filled =>
    if _ : filled.buffered = [] then
      (if buf = [] then .error .io else .error .oversize, filled)
    else
      match filled.buffered.findIdx? (· == newline) with
      | some i =>
        (decodeLine (buf ++ filled.buffered.take (i + 1)), filled.consume (i + 1))
      | none =>
        let held := buf ++ filled.buffered
        let consumed := filled.consume filled.buffered.length
        if held.length > maxFrameBytes then (.error .oversize, consumed)
        else readLoop held consumed
termination_by reader.remaining.length
decreasing_by
  rw [← BufReader.fillBuf_remaining ‹reader.fillBuf = some filled›]
  exact BufReader.consume_shorter ‹_›

def readLimitedLine (reader : BufReader) : Except ReadLineError (List Char) × BufReader :=
  readLoop [] reader

/-- What a caller gets: the line with the bytes left behind it, or an error. -/
def outcome (read : Except ReadLineError (List Char) × BufReader) :
    Except ReadLineError (List Char × List UInt8) :=
  read.1.map fun line => (line, read.2.remaining)

/-! ## What should be read -/

/-- Whether the newline of a line counts towards its limit. -/
inductive Counting where
  | newline
  | content

/-- The most bytes a line may have, its newline included. -/
def Counting.limit : Counting → Nat
  | .newline => maxFrameBytes
  | .content => maxFrameBytes + 1

/-- The outcome as a function of the bytes alone. -/
def expected (counting : Counting) (bytes : List UInt8) (ends : SocketEnd) :
    Except ReadLineError (List Char × List UInt8) :=
  match takeLine newline bytes with
  | (line, some rest) =>
    if line.length + 1 ≤ counting.limit then
      (decodeLine (line ++ [newline])).map fun text => (text, rest)
    else .error .oversize
  | (part, none) =>
    if part.length > maxFrameBytes then .error .oversize
    else if ends = .closed ∧ part ≠ [] then .error .oversize
    else .error .io

/-- The bytes that arrive in reads before the one that brings the newline. -/
def bytesBefore (reader : BufReader) : Nat :=
  (((reader.buffered :: reader.reads.map (·.1)).takeWhile (newline ∉ ·)).flatten).length

/-- The line is within the limit, or what arrives before the read with its newline is already
beyond it. -/
def Counted (counting : Counting) (reader : BufReader) : Prop :=
  ∀ line rest, takeLine newline reader.remaining = (line, some rest) →
    line.length + 1 ≤ counting.limit ∨ bytesBefore reader > maxFrameBytes

/-! ## What one read of the socket does -/

/-- The outcome of the loop as a function of the bytes and of what arrives before the
newline. -/
def reached (buf bytes : List UInt8) (before : Nat) (ends : SocketEnd) :
    Except ReadLineError (List Char × List UInt8) :=
  match takeLine newline bytes with
  | (line, some rest) =>
    if buf.length + before > maxFrameBytes then .error .oversize
    else (decodeLine (buf ++ line ++ [newline])).map fun text => (text, rest)
  | (part, none) =>
    if (buf ++ part).length > maxFrameBytes then .error .oversize
    else if ends = .closed ∧ buf ++ part ≠ [] then .error .oversize
    else .error .io

theorem findIdx?_newline {chunk : List UInt8} {i : Nat}
    (found : chunk.findIdx? (· == newline) = some i) :
    ∃ line rest, chunk = line ++ newline :: rest ∧ newline ∉ line ∧ line.length = i := by
  obtain ⟨inside, is, before⟩ := List.findIdx?_eq_some_iff_getElem.mp found
  refine ⟨chunk.take i, chunk.drop (i + 1), ?_, ?_, ?_⟩
  · have here : chunk[i] = newline := by simpa using is
    rw [← here, List.cons_getElem_drop_succ, List.take_append_drop]
  · intro member
    obtain ⟨j, bound, at_⟩ := List.mem_take_iff_getElem.mp member
    have none_ := before j (by omega)
    simp [at_] at none_
  · simp only [List.length_take]
    omega

theorem findIdx?_free {chunk : List UInt8} (free : chunk.findIdx? (· == newline) = none) :
    newline ∉ chunk := by
  intro member
  have none_ := List.findIdx?_eq_none_iff.mp free newline member
  simp at none_

theorem takeLine_free {chunk : List UInt8} (free : newline ∉ chunk) (bytes : List UInt8) :
    takeLine newline (chunk ++ bytes) =
      (chunk ++ (takeLine newline bytes).1, (takeLine newline bytes).2) := by
  induction chunk with
  | nil => simp
  | cons byte rest inductionHypothesis =>
    simp only [List.mem_cons, not_or] at free
    rw [List.cons_append, takeLine, if_neg (Ne.symm free.1), inductionHypothesis free.2]
    rfl

variable {buf : List UInt8} {reads : List Chunk} {ends : SocketEnd}

theorem readLoop_end :
    outcome (readLoop buf ⟨[], [], ends⟩) =
      if ends = .closed ∧ buf ≠ [] then .error .oversize else .error .io := by
  cases ends with
  | failed =>
    rw [readLoop]
    rfl
  | closed =>
    rw [readLoop]
    by_cases empty : buf = []
    · simp [BufReader.fillBuf, outcome, Except.map, empty]
    · simp [BufReader.fillBuf, outcome, Except.map, empty]

theorem readLoop_line {chunk : Chunk} {line rest : List UInt8}
    (shape : chunk.1 = line ++ newline :: rest) (free : newline ∉ line) :
    readLoop buf ⟨[], chunk :: reads, ends⟩ =
      (decodeLine (buf ++ line ++ [newline]), ⟨rest, reads, ends⟩) := by
  have found : chunk.1.findIdx? (· == newline) = some line.length := by
    rw [List.findIdx?_eq_some_iff_getElem]
    refine ⟨by simp [shape], by simp [shape], ?_⟩
    intro j before
    simp only [beq_iff_eq]
    intro same
    simp only [shape, List.getElem_append_left before] at same
    exact free (same ▸ List.getElem_mem before)
  have front : chunk.1.take (line.length + 1) = line ++ [newline] := by
    rw [shape, List.take_append, List.take_of_length_le (by omega)]
    simp
  have back : chunk.1.drop (line.length + 1) = rest := by
    rw [shape, List.drop_append, List.drop_eq_nil_of_le (by omega)]
    simp
  rw [readLoop]
  simp [BufReader.fillBuf, BufReader.consume, chunk.2, found, front, back]

theorem readLoop_free {chunk : Chunk} (free : newline ∉ chunk.1) :
    readLoop buf ⟨[], chunk :: reads, ends⟩ =
      if (buf ++ chunk.1).length > maxFrameBytes then (.error .oversize, ⟨[], reads, ends⟩)
      else readLoop (buf ++ chunk.1) ⟨[], reads, ends⟩ := by
  have none_ : chunk.1.findIdx? (· == newline) = none := by
    rw [List.findIdx?_eq_none_iff]
    intro byte member
    simp only [beq_eq_false_iff_ne]
    intro same
    exact free (same ▸ member)
  rw [readLoop]
  simp [BufReader.fillBuf, BufReader.consume, chunk.2, none_]

/-- What is buffered counts as a read. -/
theorem readLoop_buffered (chunk : Chunk) :
    readLoop buf ⟨chunk.1, reads, ends⟩ = readLoop buf ⟨[], chunk :: reads, ends⟩ := by
  have full : BufReader.fillBuf ⟨chunk.1, reads, ends⟩ = some ⟨chunk.1, reads, ends⟩ :=
    if_neg chunk.2
  rw [readLoop, readLoop]
  split
  · rename_i fills
    rw [full] at fills
    cases fills
  · rename_i filled fills
    rw [full] at fills
    cases fills
    rfl

theorem reached_line {line rest : List UInt8} {before : Nat} (free : newline ∉ line) :
    reached buf (line ++ newline :: rest) before ends =
      if buf.length + before > maxFrameBytes then .error .oversize
      else (decodeLine (buf ++ line ++ [newline])).map fun text => (text, rest) := by
  simp only [reached, takeLine_append free]

theorem reached_end {part : List UInt8} {before : Nat} (free : newline ∉ part) :
    reached buf part before ends =
      if (buf ++ part).length > maxFrameBytes then .error .oversize
      else if ends = .closed ∧ buf ++ part ≠ [] then .error .oversize
      else .error .io := by
  have whole := takeLine_free free []
  simp only [List.append_nil, takeLine] at whole
  simp only [reached, whole]

/-- What comes in a read without a newline can be put aside first. -/
theorem reached_free {chunk bytes : List UInt8} (before : Nat) (free : newline ∉ chunk) :
    reached (buf ++ chunk) bytes before ends =
      reached buf (chunk ++ bytes) (chunk.length + before) ends := by
  unfold reached
  rw [takeLine_free free]
  obtain ⟨line, rest⟩ := takeLine newline bytes
  cases rest with
  | none => simp
  | some rest =>
    have sums : (buf ++ chunk).length + before = buf.length + (chunk.length + before) := by
      simp only [List.length_append]
      omega
    simp only [sums, List.append_assoc]

/-- Once too much is held, the loop has given up. -/
theorem reached_beyond {bytes : List UInt8} {before : Nat} (beyond : buf.length > maxFrameBytes) :
    reached buf bytes before ends = .error .oversize := by
  unfold reached
  obtain ⟨line, rest⟩ := takeLine newline bytes
  cases rest with
  | none =>
    have more : (buf ++ line).length > maxFrameBytes := by
      simp only [List.length_append]
      omega
    simp only [if_pos more]
  | some rest =>
    have more : buf.length + before > maxFrameBytes := by omega
    simp only [if_pos more]

/-- The bytes of these reads before the one with a newline. -/
def chunksBefore (reads : List Chunk) : Nat :=
  (((reads.map (·.1)).takeWhile (newline ∉ ·)).flatten).length

/-- The loop by induction on the reads: one without a newline is put aside, the first one with
a newline ends the loop. -/
theorem readLoop_reached (reads : List Chunk) (buf : List UInt8)
    (within : buf.length ≤ maxFrameBytes) :
    outcome (readLoop buf ⟨[], reads, ends⟩) =
      reached buf (reads.map (·.1)).flatten (chunksBefore reads) ends := by
  induction reads generalizing buf with
  | nil =>
    have small : ¬ buf.length > maxFrameBytes := by omega
    rw [readLoop_end, List.map_nil, List.flatten_nil, reached_end List.not_mem_nil,
      List.append_nil, if_neg small]
  | cons chunk rest inductionHypothesis =>
    cases found : chunk.1.findIdx? (· == newline) with
    | some i =>
      obtain ⟨line, after, shape, free, -⟩ := findIdx?_newline found
      have none_ : chunksBefore (chunk :: rest) = 0 := by
        simp [chunksBefore, shape]
      have bytes : ((chunk :: rest).map (·.1)).flatten =
          line ++ newline :: (after ++ (rest.map (·.1)).flatten) := by
        simp [shape]
      rw [readLoop_line shape free, none_, bytes, reached_line free, if_neg (by omega)]
      rfl
    | none =>
      have free := findIdx?_free found
      have more : chunksBefore (chunk :: rest) = chunk.1.length + chunksBefore rest := by
        simp [chunksBefore, free]
      have bytes : ((chunk :: rest).map (·.1)).flatten =
          chunk.1 ++ (rest.map (·.1)).flatten := by
        simp
      rw [readLoop_free free, more, bytes, ← reached_free _ free]
      split
      · rename_i beyond
        rw [reached_beyond beyond]
        rfl
      · rename_i within_
        exact inductionHypothesis _ (by omega)

theorem readLimitedLine_reached (reader : BufReader) :
    outcome (readLimitedLine reader) =
      reached [] reader.remaining (bytesBefore reader) reader.ends := by
  obtain ⟨buffered, reads, ends⟩ := reader
  unfold readLimitedLine
  by_cases empty : buffered = []
  · subst empty
    rw [readLoop_reached reads [] (Nat.zero_le _)]
    simp [BufReader.remaining, chunksBefore, bytesBefore]
  · rw [readLoop_buffered ⟨buffered, empty⟩, readLoop_reached _ [] (Nat.zero_le _)]
    simp [BufReader.remaining, chunksBefore, bytesBefore]

/-! ## When the limit does not depend on the reads -/

/-- The reads before the one with the newline bring a part of the line. -/
theorem bytesBefore_le {reader : BufReader} {line rest : List UInt8}
    (taken : takeLine newline reader.remaining = (line, some rest)) :
    bytesBefore reader ≤ line.length := by
  suffices every : ∀ chunks : List (List UInt8),
      takeLine newline chunks.flatten = (line, some rest) →
      ((chunks.takeWhile (newline ∉ ·)).flatten).length ≤ line.length by
    apply every
    simpa [BufReader.remaining] using taken
  clear taken
  intro chunks
  induction chunks generalizing line with
  | nil => simp
  | cons chunk more inductionHypothesis =>
    intro taken
    by_cases free : newline ∉ chunk
    · rw [List.flatten_cons, takeLine_free free] at taken
      obtain ⟨rfl, here⟩ := Prod.mk.inj taken
      have inner : ((more.takeWhile (newline ∉ ·)).flatten).length ≤
          (takeLine newline more.flatten).1.length := inductionHypothesis (Prod.ext rfl here)
      have first : (chunk :: more).takeWhile (newline ∉ ·) =
          chunk :: more.takeWhile (newline ∉ ·) := by
        simp [free]
      rw [first, List.flatten_cons, List.length_append, List.length_append]
      exact Nat.add_le_add_left inner _
    · simp [free]

theorem decodeLine_ne_oversize (bytes : List UInt8) (rest : List UInt8) :
    (decodeLine bytes).map (fun text => (text, rest)) ≠ .error .oversize := by
  unfold decodeLine
  cases fromUtf8 bytes <;> simp [Except.map]

/-- The outcome is the one the bytes determine exactly when the line is within the limit or
its excess arrives before its last read; and this for both ways to count the newline. -/
theorem line_limit (counting : Counting) (reader : BufReader) :
    outcome (readLimitedLine reader) = expected counting reader.remaining reader.ends ↔
      Counted counting reader := by
  rw [readLimitedLine_reached]
  unfold reached expected Counted
  have least : maxFrameBytes ≤ counting.limit := by
    cases counting <;> simp [Counting.limit]
  have most : counting.limit ≤ maxFrameBytes + 1 := by
    cases counting <;> simp [Counting.limit]
  cases taken : takeLine newline reader.remaining with
  | mk line rest =>
    cases rest with
    | none => simp
    | some rest =>
      have part := bytesBefore_le taken
      simp only [List.length_nil, Nat.zero_add, List.nil_append]
      by_cases beyond : bytesBefore reader > maxFrameBytes
      · -- given up, and the whole line is longer still
        rw [if_pos beyond, if_neg (by omega)]
        simp [beyond]
      · rw [if_neg beyond]
        by_cases fits : line.length + 1 ≤ counting.limit
        · rw [if_pos fits]
          simp only [true_iff]
          intro line' rest' same
          cases same
          exact Or.inl fits
        · rw [if_neg fits]
          constructor
          · exact fun same => absurd same (decodeLine_ne_oversize _ _)
          · intro counted
            rcases counted line rest rfl with small | large
            · exact absurd small fits
            · exact absurd large beyond

/-! ## A line that is too long and is read -/

/-- `n` reads of the byte `x`, `m + 1` at a time, and then one more with the newline. -/
def padded (n m : Nat) : BufReader where
  buffered := []
  reads := List.replicate n ⟨List.replicate (m + 1) 120, by simp⟩ ++ [⟨[120, newline], by simp⟩]
  ends := .closed

theorem padded_remaining (n m : Nat) :
    (padded n m).remaining = List.replicate (n * (m + 1) + 1) 120 ++ [newline] := by
  have content : List.replicate (n * (m + 1) + 1) (120 : UInt8) =
      List.replicate (n * (m + 1)) 120 ++ [120] := List.replicate_succ'
  rw [content]
  simp [BufReader.remaining, padded, List.map_replicate, List.flatten_replicate_replicate]

theorem padded_bytesBefore (n m : Nat) : bytesBefore (padded n m) = n * (m + 1) := by
  simp [bytesBefore, padded, List.mem_replicate, newline]

/-- A line of `maxFrameBytes + 1` bytes, read 8 KiB at a time: the last byte arrives together
with the newline. -/
theorem line_limit_exceeded :
    ¬ ∃ counting : Counting, ∀ reader : BufReader,
      outcome (readLimitedLine reader) = expected counting reader.remaining reader.ends := by
  intro ⟨counting, every⟩
  have free : newline ∉ List.replicate (maxFrameBytes + 1) (120 : UInt8) := by
    intro member
    exact absurd (List.eq_of_mem_replicate member) (by decide)
  have bytes : (padded 32 8191).remaining = List.replicate (maxFrameBytes + 1) 120 ++ [newline] :=
    padded_remaining 32 8191
  have before : bytesBefore (padded 32 8191) = maxFrameBytes := padded_bytesBefore 32 8191
  have refused : expected counting (padded 32 8191).remaining (padded 32 8191).ends =
      .error .oversize := by
    have least : ¬ maxFrameBytes + 1 + 1 ≤ counting.limit := by
      cases counting <;> simp [Counting.limit]
    rw [expected, bytes, takeLine_append free []]
    simp only [List.length_replicate, if_neg least]
  have accepted : outcome (readLimitedLine (padded 32 8191)) ≠ .error .oversize := by
    rw [readLimitedLine_reached, bytes, reached_line free, before]
    rw [if_neg (by simp)]
    exact decodeLine_ne_oversize _ _
  exact accepted ((every (padded 32 8191)).trans refused)

end AgentConsole.Bridge.LineLimit
