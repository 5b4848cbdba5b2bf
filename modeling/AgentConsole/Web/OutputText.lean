import AgentConsole.Bridge.OutputPages
import AgentConsole.Lib.Base64Padded
import AgentConsole.Lib.Utf8Pages

/-! # The text of a command's output

`getOutputText` of the transport asks for one page after the other and decodes each page when
it has come.  The Bridge cuts the pages at byte counts, so a character may lie on both sides
of a cut. -/

namespace AgentConsole.Web.OutputText

open AgentConsole.Lib
open AgentConsole.Bridge
open AgentConsole.Bridge.SessionOutputs (Serves pageLimit pageLimit_pos parseIndex?_toString
  queryCommandOutputPage_of_serves)

/-- What ends the reading early: a request that fails, a page that is no base64, and too many
pages. -/
inductive Failure where
  | request
  | invalidCharacter
  | pageLimit
deriving DecidableEq, Repr

/-- The parts of a `commandOutputPage` that are read. -/
structure OutputPageBody where
  bytesBase64 : List Char
  nextCursor : String

/-- `session_output` of the relay, which answers what the Bridge has answered. -/
def sessionOutput (src : Sources) (key : SessionKey) (itemId : String) (pageSize : Nat)
    (cursor : String) : Except Failure OutputPageBody :=
  match src.queryCommandOutputPage key ⟨some ⟨itemId, false⟩, cursor, pageSize⟩ with
  | .ok (.commandOutputPage page) => .ok ⟨Base64Padded.encode page.bytes, page.nextCursor⟩
  | _ => .error .request

/-- `atob`, the bytes of its characters, and a new `TextDecoder`, which drops a byte order mark
at the front. -/
def decodeBase64Utf8 (value : List Char) : Except Failure (List Char) :=
  if value = [] then .ok []
  else
    match Base64Padded.decode value with
    | some bytes => .ok (Utf8.readPage bytes)
    | none => .error .invalidCharacter

/-- The loop of `getOutputText`, with the number of pages it may still ask for. -/
def outputLoop (fetch : String → Except Failure OutputPageBody) :
    Nat → String → List Char → Except Failure (List Char)
  | 0, _, _ => .error .pageLimit
  | pages + 1, next, output => do
    let body ← fetch next
    let text ← decodeBase64Utf8 body.bytesBase64
    if body.nextCursor = "" then return output ++ text
    else outputLoop fetch pages body.nextCursor (output ++ text)

def getOutputText (fetch : String → Except Failure OutputPageBody) (cursor : String) :
    Except Failure (List Char) :=
  outputLoop fetch 100 cursor []

/-! ## The pages -/

/-- The cursor of a page that starts here. -/
def cursorAt (offset : Nat) : String := if offset = 0 then "" else toString offset

/-- The pages of an output from an offset on, with a page size for each cursor. -/
def pagesFrom (sizes : String → Nat) (data : List UInt8) (offset : Nat) : List (List UInt8) :=
  let limit := pageLimit (sizes (cursorAt offset))
  (data.drop offset).take limit ::
    if offset + limit < data.length then pagesFrom sizes data (offset + limit) else []
termination_by data.length - offset
decreasing_by
  have positive := pageLimit_pos (sizes (cursorAt offset))
  omega

theorem pagesFrom_flatten (sizes : String → Nat) (data : List UInt8) (offset : Nat) :
    (pagesFrom sizes data offset).flatten = data.drop offset := by
  induction offset using pagesFrom.induct sizes data with
  | case1 offset limit inductionHypothesis =>
    rw [pagesFrom]
    by_cases more : offset + limit < data.length
    · simp only [limit] at more inductionHypothesis
      rw [if_pos more, List.flatten_cons, inductionHypothesis more, ← List.drop_drop,
        List.take_append_drop]
    · simp only [limit] at more
      rw [if_neg more, List.flatten_cons, List.flatten_nil, List.append_nil]
      apply List.take_of_length_le
      rw [List.length_drop]
      omega

theorem decodeBase64Utf8_encode (page : List UInt8) :
    decodeBase64Utf8 (Base64Padded.encode page) = .ok (Utf8.readPage page) := by
  unfold decodeBase64Utf8
  rw [Base64Padded.decode_encode]
  split
  · rename_i empty
    have none_ : page = [] := by
      have read := Base64Padded.decode_encode page
      rw [empty] at read
      exact (Option.some.inj read).symm
    rw [none_]
    rfl
  · rfl

variable {src : Sources} {key : SessionKey} {itemId : String} {data : List UInt8}

/-- One request. -/
theorem sessionOutput_page (codex : key.agentKind = .codexDesktop)
    (serves : Serves src key itemId data) (sizes : String → Nat) {offset : Nat}
    (inside : offset ≤ data.length) (small : offset < 2 ^ 64) :
    sessionOutput src key itemId (sizes (cursorAt offset)) (cursorAt offset) =
      .ok ⟨Base64Padded.encode ((data.drop offset).take (pageLimit (sizes (cursorAt offset)))),
        if offset + pageLimit (sizes (cursorAt offset)) < data.length then
          toString (offset + pageLimit (sizes (cursorAt offset))) else ""⟩ := by
  have starts : (Json.parseIndex? (cursorAt offset)).getD 0 = offset := by
    unfold cursorAt
    split
    · rename_i zero
      subst zero
      decide
    · rw [parseIndex?_toString small]
      rfl
  obtain ⟨final, page⟩ := queryCommandOutputPage_of_serves codex serves starts
    (sizes (cursorAt offset)) inside
  unfold sessionOutput
  rw [page]

theorem toString_ne_empty {n : Nat} (small : n < 2 ^ 64) : toString n ≠ "" := by
  intro empty
  have read := parseIndex?_toString small
  rw [empty, show Json.parseIndex? "" = none by decide] at read
  cases read

/-- The loop reads the pages one by one, if they are not too many.  So many pages lie far
within what a cursor can name. -/
theorem outputLoop_pages (codex : key.agentKind = .codexDesktop)
    (serves : Serves src key itemId data) (sizes : String → Nat) (rounds offset : Nat)
    (inside : offset ≤ data.length) (near : offset + rounds * outputPageMax < 2 ^ 64)
    (output : List Char) :
    outputLoop (fun cursor => sessionOutput src key itemId (sizes cursor) cursor) rounds
        (cursorAt offset) output =
      if (pagesFrom sizes data offset).length ≤ rounds then
        .ok (output ++ Utf8.readPages (pagesFrom sizes data offset))
      else .error .pageLimit := by
  induction rounds generalizing offset output with
  | zero =>
    rw [pagesFrom]
    simp [outputLoop]
  | succ rounds inductionHypothesis =>
    have page := sessionOutput_page codex serves sizes inside (by omega)
    have most : pageLimit (sizes (cursorAt offset)) ≤ outputPageMax := by
      unfold pageLimit
      split <;> omega
    have positive := pageLimit_pos (sizes (cursorAt offset))
    rw [pagesFrom, outputLoop]
    simp only [page, decodeBase64Utf8_encode, bind, Except.bind, pure, Except.pure]
    generalize pageLimit (sizes (cursorAt offset)) = limit at page most positive
    by_cases more : offset + limit < data.length
    · have reach : offset + limit < 2 ^ 64 := by
        rw [Nat.succ_mul] at near
        omega
      have named : cursorAt (offset + limit) = toString (offset + limit) := if_neg (by omega)
      have rest := inductionHypothesis (offset + limit) more.le
        (by rw [Nat.succ_mul] at near; omega)
        (output ++ Utf8.readPage ((data.drop offset).take limit))
      rw [named] at rest
      simp only [if_pos more, if_neg (toString_ne_empty reach), rest, List.length_cons,
        Nat.succ_le_succ_iff, Utf8.readPages, List.flatMap_cons, List.append_assoc]
    · simp [if_neg more, Utf8.readPages]

/-! ## When the text is right -/

/-- The text is the output exactly when it comes in at most 100 pages, none of which cuts a
character or begins with a byte order mark. -/
theorem output_text (src : Sources) (key : SessionKey) (itemId : String) (text : List Char)
    (sizes : String → Nat) (codex : key.agentKind = .codexDesktop)
    (serves : Serves src key itemId (Utf8.encode text)) :
    getOutputText (fun cursor => sessionOutput src key itemId (sizes cursor) cursor) "" = .ok text ↔
      (pagesFrom sizes (Utf8.encode text) 0).length ≤ 100 ∧
        Utf8.Whole (pagesFrom sizes (Utf8.encode text) 0) := by
  have pages := pagesFrom_flatten sizes (Utf8.encode text) 0
  rw [List.drop_zero] at pages
  have loop := outputLoop_pages codex serves sizes 100 0 (Nat.zero_le _) (by decide) []
  unfold getOutputText
  rw [show "" = cursorAt 0 from rfl, loop, List.nil_append, ← Utf8.readPages_iff pages.symm]
  split
  · rename_i few
    simp [few]
  · rename_i many
    simp [many]

/-! ## A text that is cut -/

/-- A Bridge whose adapter has this output for every item. -/
def showing (data : List UInt8) : Sources where
  refreshSnapshot _ := .error ⟨.sessionNotFound, ""⟩
  historyPage _ _ _ := .error ⟨.sessionNotFound, ""⟩
  outputPage _ _ offset limit :=
    some ((data.drop (min offset data.length)).take limit, data.length, true)
  sessionCwd _ := none
  zcodeHooks := none
  queueStatus _ _ := .error ⟨.sessionNotFound, ""⟩
  resolveForRead _ _ _ := .error ⟨.sessionNotFound, ""⟩
  uploadHandles := ∅
  outputs := ∅
  sessions := ∅

def codexKey : SessionKey := ⟨"device", .codexDesktop, "native"⟩

theorem serves_showing (data : List UInt8) : Serves (showing data) codexKey "c" data :=
  ⟨true, fun _ _ => rfl⟩

theorem output_text_short :
    getOutputText (fun cursor => sessionOutput (showing (Utf8.encode ['o', 'k'])) codexKey "c"
      (256 * 1024) cursor) "" = .ok ['o', 'k'] := by
  apply (output_text _ codexKey "c" ['o', 'k'] (fun _ => 256 * 1024) rfl (serves_showing _)).mpr
  have page : pagesFrom (fun _ => 256 * 1024) (Utf8.encode ['o', 'k']) 0 =
      [Utf8.encode ['o', 'k']] := by
    rw [pagesFrom]
    decide +kernel
  rw [page]
  exact ⟨by decide, [['o', 'k']], rfl, by simp [Utf8.byteOrderMark]⟩

/-- `n` letters and one character of two bytes. -/
def cutText (n : Nat) : List Char := List.replicate n 'a' ++ ['é']

theorem encode_cutText (n : Nat) :
    Utf8.encode (cutText n) = List.replicate n 0x61 ++ [0xC3, 0xA9] := by
  have letter : String.utf8EncodeChar 'a' = [0x61] := by decide +kernel
  have accent : String.utf8EncodeChar 'é' = [0xC3, 0xA9] := by decide +kernel
  have letters : Utf8.encode (List.replicate n 'a') = List.replicate n 0x61 := by
    induction n with
    | zero => rfl
    | succ n inductionHypothesis =>
      rw [List.replicate_succ, Utf8.encode_cons, letter, inductionHypothesis]
      rfl
  rw [cutText, Utf8.encode_append, letters, Utf8.encode_cons, accent]
  rfl

theorem cutText_last (n : Nat) : (Utf8.encode (cutText n))[n + 1]? = some 0xA9 := by
  rw [encode_cutText, List.getElem?_append_right (by simp)]
  simp

/-- The page size that the transport asks for puts the first cut into the last character. -/
theorem output_text_cut :
    ¬ ∀ (src : Sources) (key : SessionKey) (itemId : String) (text : List Char),
      key.agentKind = .codexDesktop → Serves src key itemId (Utf8.encode text) →
      getOutputText (fun cursor => sessionOutput src key itemId (256 * 1024) cursor) "" =
        .ok text := by
  intro every
  have right := every (showing (Utf8.encode (cutText 262143))) codexKey "c" (cutText 262143) rfl
    (serves_showing _)
  have codex : codexKey.agentKind = .codexDesktop := rfl
  have loop := outputLoop_pages codex (serves_showing (Utf8.encode (cutText 262143)))
    (fun _ => 256 * 1024) 100 0 (Nat.zero_le _) (by decide) []
  have pages := pagesFrom_flatten (fun _ => 256 * 1024) (Utf8.encode (cutText 262143)) 0
  rw [List.drop_zero] at pages
  unfold getOutputText at right
  rw [show "" = cursorAt 0 from rfl, loop, List.nil_append] at right
  split at right
  · -- the first page would be a text by itself
    obtain ⟨parts, shape, -⟩ := (Utf8.readPages_iff pages.symm).mp (Except.ok.inj right)
    rw [pagesFrom] at shape
    cases parts with
    | nil => cases shape
    | cons part parts =>
      obtain ⟨first, -⟩ := List.cons.inj shape
      rw [List.drop_zero] at first
      have valid := Utf8.isValid_take.mp (Utf8.isValid_iff.mpr ⟨part, first⟩) 0xA9
      have limit : pageLimit (256 * 1024) = 262143 + 1 := by decide
      rw [limit] at valid
      exact absurd (valid (cutText_last 262143)) (by decide)
  · cases right

end AgentConsole.Web.OutputText
