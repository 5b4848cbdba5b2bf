import AgentConsole.Lib.Utf8Decode

/-! # Reading `git status --porcelain=v1 -z`

Git writes an entry as its two status letters, a blank and the path, and after a rename or
copy the old path, each path closed by a NUL.  `parse_status_z` reads such records for as long
as three bytes are left; whether an old path follows it decides by the first letter. -/

namespace AgentConsole.Bridge

open AgentConsole.Lib

inductive GitError where
  | outsideScope
  | invalidPath
  | gitNotFound
  | spawn
  | timeout (operation : String) (timeoutSecs : Nat)
  | gitFailed (operation : String) (code : Option Int) (stderrBrief : String)
  | outputTooLarge (operation : String) (limit : Nat)
deriving DecidableEq

structure FileEntry where
  path : String
  origPath : Option String
  indexStatus : Char
  worktreeStatus : Char
deriving DecidableEq

/-- `String::from_utf8_lossy` -/
def fromUtf8Lossy (bytes : List UInt8) : String := String.ofList (Utf8.lossy bytes)

/-- The letter says that the entry was renamed or copied. -/
def isRename (status : UInt8) : Bool := status == 'R'.toUInt8 || status == 'C'.toUInt8

def readNulField (bytes : List UInt8) : Except GitError (String × List UInt8) :=
  match bytes.findIdx? (· == 0) with
  | none => .error (.gitFailed "status" none "unterminated porcelain path")
  | some rel => .ok (fromUtf8Lossy (bytes.take rel), bytes.drop (rel + 1))

/-- The paths of an entry, after its letters and the blank. -/
def readPaths (x y : UInt8) (bytes : List UInt8) : Except GitError (FileEntry × List UInt8) := do
  let (path, next) ← readNulField bytes
  let (origPath, next) ←
    if isRename x then (readNulField next).map fun (old, next) => (some old, next)
    else .ok (none, next)
  .ok (⟨path, origPath, Char.ofNat x.toNat, Char.ofNat y.toNat⟩, next)

/-! ## The records that are read -/

/-- A record: two letters, a path, and an old path or none. -/
structure StatusRecord where
  x : UInt8
  y : UInt8
  path : List UInt8
  origPath : Option (List UInt8)
  path_closed : 0 ∉ path
  orig_closed : ∀ old, origPath = some old → 0 ∉ old

namespace StatusRecord

def paths (r : StatusRecord) : List UInt8 :=
  r.path ++ 0 :: (r.origPath.map (· ++ [0])).getD []

def bytes (r : StatusRecord) : List UInt8 := r.x :: r.y :: ' '.toUInt8 :: r.paths

def file (r : StatusRecord) : FileEntry :=
  ⟨fromUtf8Lossy r.path, r.origPath.map fromUtf8Lossy, Char.ofNat r.x.toNat, Char.ofNat r.y.toNat⟩

/-- The first letter tells whether there is an old path. -/
def Told (r : StatusRecord) : Prop := r.origPath.isSome = isRename r.x

instance (r : StatusRecord) : Decidable r.Told := inferInstanceAs (Decidable (_ = _))

end StatusRecord

theorem readNulField_append {field : List UInt8} (closed : 0 ∉ field) (rest : List UInt8) :
    readNulField (field ++ 0 :: rest) = .ok (fromUtf8Lossy field, rest) := by
  have position : (field ++ 0 :: rest).findIdx? (· == 0) = some field.length := by
    rw [List.findIdx?_append, List.findIdx?_eq_none_iff.mpr]
    · simp [List.findIdx?_cons]
    · intro byte member
      simpa using fun zero : byte = 0 => closed (zero ▸ member)
  simp [readNulField, position]

theorem readNulField_ok {bytes rest : List UInt8} {field : String}
    (read : readNulField bytes = .ok (field, rest)) :
    ∃ raw, 0 ∉ raw ∧ bytes = raw ++ 0 :: rest ∧ field = fromUtf8Lossy raw := by
  unfold readNulField at read
  split at read
  · cases read
  · next rel found =>
    cases read
    obtain ⟨within, zero, before⟩ := List.findIdx?_eq_some_iff_getElem.mp found
    refine ⟨bytes.take rel, ?_, ?_, rfl⟩
    · intro member
      obtain ⟨i, inside, is⟩ := List.mem_take_iff_getElem.mp member
      exact absurd is (by simpa using before i (by omega))
    · have split := List.take_append_drop rel bytes
      rw [List.drop_eq_getElem_cons within, beq_iff_eq.mp zero] at split
      exact split.symm

open StatusRecord in
theorem readPaths_record {r : StatusRecord} (told : r.Told) (rest : List UInt8) :
    readPaths r.x r.y (r.paths ++ rest) = .ok (r.file, rest) := by
  unfold Told at told
  unfold readPaths paths
  rw [List.append_assoc, List.cons_append, readNulField_append r.path_closed]
  cases old : r.origPath with
  | none =>
    rw [old] at told
    simp [← told, file, old, bind, Except.bind]
  | some old' =>
    rw [old] at told
    have closed := r.orig_closed old' old
    simp [← told, file, old, bind, Except.bind, Except.map, readNulField_append closed]

theorem readPaths_ok {x y : UInt8} {bytes rest : List UInt8} {entry : FileEntry}
    (read : readPaths x y bytes = .ok (entry, rest)) :
    ∃ r : StatusRecord, r.x = x ∧ r.y = y ∧ r.Told ∧ bytes = r.paths ++ rest ∧ entry = r.file := by
  unfold readPaths at read
  cases first : readNulField bytes with
  | error error => simp [first, bind, Except.bind] at read
  | ok found =>
    obtain ⟨path, next⟩ := found
    obtain ⟨raw, closed, same, rfl⟩ := readNulField_ok first
    rw [first] at read
    cases renamed : isRename x with
    | false =>
      simp only [renamed, bind, Except.bind, Bool.false_eq_true, if_false, Except.ok.injEq,
        Prod.mk.injEq] at read
      obtain ⟨rfl, rfl⟩ := read
      exact ⟨⟨x, y, raw, none, closed, by simp⟩, rfl, rfl, by simp [StatusRecord.Told, renamed],
        by simp [StatusRecord.paths, same], rfl⟩
    | true =>
      cases second : readNulField next with
      | error error => simp [renamed, second, bind, Except.bind, Except.map] at read
      | ok found =>
        obtain ⟨old, next'⟩ := found
        obtain ⟨raw', closed', same', rfl⟩ := readNulField_ok second
        simp only [renamed, second, bind, Except.bind, Except.map, if_true, Except.ok.injEq,
          Prod.mk.injEq] at read
        obtain ⟨rfl, rfl⟩ := read
        exact ⟨⟨x, y, raw, some raw', closed, by simpa using closed'⟩, rfl, rfl,
          by simp [StatusRecord.Told, renamed], by simp [StatusRecord.paths, same, same'], rfl⟩

theorem readPaths_shorter {x y : UInt8} {bytes rest : List UInt8} {entry : FileEntry}
    (read : readPaths x y bytes = .ok (entry, rest)) : rest.length < bytes.length := by
  obtain ⟨r, -, -, -, same, -⟩ := readPaths_ok read
  rw [same]
  simp [StatusRecord.paths]
  omega

/-! ## The whole output -/

def parseStatusZ : List UInt8 → Except GitError (List FileEntry)
  | x :: y :: blank :: rest =>
    if blank ≠ ' '.toUInt8 then
      .error (.gitFailed "status" none "malformed porcelain status entry")
    else
      match _read : readPaths x y rest with
      | .error error => .error error
      | .ok (entry, next) => (parseStatusZ next).map (entry :: ·)
  | _ => .ok []
termination_by bytes => bytes.length
decreasing_by
  have shorter := readPaths_shorter _read
  simp only [List.length_cons]
  omega

theorem parseStatusZ_short {bytes : List UInt8} (short : bytes.length < 3) :
    parseStatusZ bytes = .ok [] := by
  rw [parseStatusZ]
  intro x y blank rest shape
  rw [shape] at short
  simp only [List.length_cons] at short
  omega

theorem parseStatusZ_record {r : StatusRecord} (told : r.Told) (rest : List UInt8) :
    parseStatusZ (r.bytes ++ rest) = (parseStatusZ rest).map (r.file :: ·) := by
  rw [StatusRecord.bytes, List.cons_append, List.cons_append, List.cons_append, parseStatusZ,
    if_neg (by simp)]
  have read := readPaths_record told rest
  split
  · next error failed => rw [read] at failed; cases failed
  · next entry next found =>
    rw [read] at found
    cases found
    rfl

theorem parseStatusZ_records {records : List StatusRecord} (told : ∀ r ∈ records, r.Told)
    (rest : List UInt8) :
    parseStatusZ (records.flatMap (·.bytes) ++ rest) =
      (parseStatusZ rest).map (records.map (·.file) ++ ·) := by
  induction records with
  | nil =>
    simp only [List.flatMap_nil, List.map_nil, List.nil_append]
    cases parseStatusZ rest <;> rfl
  | cons r records inductionHypothesis =>
    rw [List.flatMap_cons, List.append_assoc, parseStatusZ_record (told r (by simp)),
      inductionHypothesis fun r member => told r (List.mem_cons_of_mem _ member)]
    cases parseStatusZ rest <;> rfl

/-- Exactly these bytes are accepted: records whose first letter tells their number of paths,
and less than three bytes after them. -/
theorem parseStatusZ_ok_iff {bytes : List UInt8} {entries : List FileEntry} :
    parseStatusZ bytes = .ok entries ↔
      ∃ records : List StatusRecord, ∃ tail, (∀ r ∈ records, r.Told) ∧ tail.length < 3 ∧
        bytes = records.flatMap (·.bytes) ++ tail ∧ entries = records.map (·.file) := by
  constructor
  · intro parsed
    induction bytes using parseStatusZ.induct generalizing entries with
    | case1 x y blank rest other => simp [parseStatusZ, other] at parsed
    | case2 x y blank rest is error read => 
      rw [parseStatusZ, if_neg is] at parsed
      split at parsed
      · cases parsed
      · next found => rw [read] at found; cases found
    | case3 x y blank rest is entry next read inductionHypothesis =>
      rw [parseStatusZ, if_neg is] at parsed
      split at parsed
      · cases parsed
      · next entry' next' found =>
        rw [read] at found
        cases found
        cases later : parseStatusZ next with
        | error error => rw [later] at parsed; cases parsed
        | ok others =>
          rw [later] at parsed
          cases parsed
          obtain ⟨records, tail, told, short, same, rfl⟩ := inductionHypothesis later
          obtain ⟨r, rfl, rfl, here, paths, rfl⟩ := readPaths_ok read
          refine ⟨r :: records, tail, ?_, short, ?_, rfl⟩
          · simpa using ⟨here, told⟩
          · rw [paths, same, Decidable.not_not.mp is]
            simp [StatusRecord.bytes]
    | case4 bytes none_ =>
      have short : bytes.length < 3 := by
        by_contra long
        rcases bytes with _ | ⟨x, _ | ⟨y, _ | ⟨blank, rest⟩⟩⟩
        · simp at long
        · simp at long
        · simp at long
        · exact none_ x y blank rest rfl
      rw [parseStatusZ_short short] at parsed
      cases parsed
      exact ⟨[], bytes, by simp, short, by simp, rfl⟩
  · intro ⟨records, tail, told, short, same, is⟩
    rw [same, is, parseStatusZ_records told, parseStatusZ_short short]
    simp [Except.map]

/-! ## What git writes -/

/-- The letters of the short format. -/
def statusCodes : List UInt8 :=
  [' ', 'M', 'T', 'A', 'D', 'R', 'C', 'U', '?', '!'].map Char.toUInt8

/-- An entry of git's: paths are not empty, and there is an old one after a rename or copy. -/
structure StatusEntry extends StatusRecord where
  x_code : x ∈ statusCodes
  y_code : y ∈ statusCodes
  path_named : path ≠ []
  orig_named : origPath ≠ some []
  orig_iff : origPath.isSome = (isRename x || isRename y)

def renderStatus (entries : List StatusEntry) : List UInt8 := entries.flatMap (·.bytes)

theorem StatusEntry.told_iff (e : StatusEntry) :
    e.Told ↔ (isRename e.y = true → isRename e.x = true) := by
  rw [StatusRecord.Told, e.orig_iff]
  cases isRename e.x <;> cases isRename e.y <;> simp

/-- An old path that only the second letter announces is not read: the entry is wrong. -/
theorem StatusEntry.not_parsed {e : StatusEntry} (untold : ¬ e.Told) (rest : List UInt8)
    (others : List FileEntry) : parseStatusZ (e.bytes ++ rest) ≠ .ok (e.file :: others) := by
  obtain ⟨second, first⟩ : isRename e.y = true ∧ isRename e.x = false := by
    rw [e.told_iff] at untold
    simpa using untold
  obtain ⟨old, announced⟩ : ∃ old, e.origPath = some old := by
    rw [← Option.isSome_iff_exists, e.orig_iff, second, Bool.or_true]
  -- what is read is the record without the old path, which is left for the next one
  let cut : StatusRecord := ⟨e.x, e.y, e.path, none, e.path_closed, by simp⟩
  have told : cut.Told := by simp [StatusRecord.Told, cut, first]
  have bytes : e.bytes ++ rest = cut.bytes ++ (old ++ 0 :: rest) := by
    simp [StatusRecord.bytes, StatusRecord.paths, announced, cut]
  rw [bytes, parseStatusZ_record told]
  intro parsed
  cases later : parseStatusZ (old ++ 0 :: rest) with
  | error error => rw [later] at parsed; cases parsed
  | ok entries =>
    rw [later] at parsed
    have same : cut.file = e.file := (List.cons.inj (Except.ok.inj parsed)).1
    have paths := congrArg FileEntry.origPath same
    simp [StatusRecord.file, cut, announced] at paths

theorem parse_renderStatus_told {entries : List StatusEntry}
    (parsed : parseStatusZ (renderStatus entries) = .ok (entries.map (·.file))) :
    ∀ e ∈ entries, e.Told := by
  induction entries with
  | nil => simp
  | cons e rest inductionHypothesis =>
    have split : renderStatus (e :: rest) = e.bytes ++ renderStatus rest := rfl
    rw [split, List.map_cons] at parsed
    by_cases told : e.Told
    · rw [parseStatusZ_record told] at parsed
      cases later : parseStatusZ (renderStatus rest) with
      | error error => rw [later] at parsed; cases parsed
      | ok entries =>
        rw [later] at parsed
        have same := (List.cons.inj (Except.ok.inj parsed)).2
        have others := inductionHypothesis (by rw [later, same])
        intro other member
        rcases List.mem_cons.mp member with rfl | after
        · exact told
        · exact others other after
    · exact absurd parsed (e.not_parsed told _ _)

/-- **Status parsing**: the rendering of a list of entries is read as that list exactly when
every entry with a rename or copy as its second letter has one as its first letter too; and
bytes that are no rendering are rejected exactly when they are not records, each with a second
path if its first letter is a rename or copy, followed by less than three bytes. -/
theorem parse_status_z_exact (entries : List StatusEntry) (bytes : List UInt8) :
    (parseStatusZ (renderStatus entries) = .ok (entries.map (·.file)) ↔
      ∀ e ∈ entries, isRename e.y = true → isRename e.x = true) ∧
    ((¬ ∃ listed, bytes = renderStatus listed) →
      ((∃ error, parseStatusZ bytes = .error error) ↔
        ¬ ∃ records : List StatusRecord, ∃ tail, (∀ r ∈ records, r.Told) ∧ tail.length < 3 ∧
          bytes = records.flatMap (·.bytes) ++ tail)) := by
  constructor
  · have records : renderStatus entries = (entries.map (·.toStatusRecord)).flatMap (·.bytes) := by
      simp [renderStatus, List.flatMap_map]
    constructor
    · intro parsed e member
      exact e.told_iff.mp (parse_renderStatus_told parsed e member)
    · intro told
      have all : ∀ r ∈ entries.map (·.toStatusRecord), r.Told := by
        intro r member
        obtain ⟨e, inside, rfl⟩ := List.mem_map.mp member
        exact e.told_iff.mpr (told e inside)
      have parsed := parseStatusZ_records all []
      rw [List.append_nil, ← records, parseStatusZ_short (show ([] : List UInt8).length < 3 by simp)] at parsed
      rw [parsed]
      simp [Except.map]
  · intro _
    cases parsed : parseStatusZ bytes with
    | error error =>
      refine ⟨fun _ accepted => ?_, fun _ => ⟨error, rfl⟩⟩
      obtain ⟨records, tail, told, short, same⟩ := accepted
      have ok := parseStatusZ_ok_iff.mpr ⟨records, tail, told, short, same, rfl⟩
      rw [parsed] at ok
      cases ok
    | ok entries =>
      obtain ⟨records, tail, told, short, same, -⟩ := parseStatusZ_ok_iff.mp parsed
      constructor
      · intro ⟨error, failed⟩
        cases failed
      · intro rejected
        exact (rejected ⟨records, tail, told, short, same⟩).elim

/-- An entry renamed in the worktree only, as after `git add -N`. -/
def worktreeRename : StatusEntry where
  x := ' '.toUInt8
  y := 'R'.toUInt8
  path := ['b'.toUInt8]
  origPath := some ['a'.toUInt8]
  path_closed := by decide
  orig_closed := by simp; decide
  x_code := by decide
  y_code := by decide
  path_named := by decide
  orig_named := by decide
  orig_iff := by decide

/-- The old path of such an entry is lost, and a short tail is passed over. -/
theorem status_parsing_partial :
    parseStatusZ (renderStatus [worktreeRename]) ≠ .ok ([worktreeRename].map (·.file)) ∧
    (¬ ∃ entries, ['x'.toUInt8] = renderStatus entries) ∧
    parseStatusZ ['x'.toUInt8] = .ok [] := by
  refine ⟨?_, ?_, parseStatusZ_short (by simp)⟩
  · have untold : ¬ worktreeRename.Told := by decide
    have wrong := worktreeRename.not_parsed untold [] []
    rwa [List.append_nil] at wrong
  · intro ⟨entries, same⟩
    cases entries with
    | nil => cases same
    | cons e rest =>
      have length := congrArg List.length same
      simp [renderStatus, StatusRecord.bytes] at length

end AgentConsole.Bridge
