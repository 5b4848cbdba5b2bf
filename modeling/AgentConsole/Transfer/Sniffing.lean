import AgentConsole.Transfer.FilePolicy

/-! # What a file is by its first bytes

`open_slice` and `query_file_metadata` read the first 8192 bytes of a file, each by itself, and
ask `classify` about them.  A text is cut there at a count of bytes, not between characters. -/

namespace AgentConsole.Transfer

open AgentConsole.Lib

/-! ## The metadata of a file -/

/-- `pb::FileMetadataData` -/
structure FileMetadata where
  displayName : String
  mimeType : String
  sizeBytes : Nat
  previewKind : String
  notPreviewableReason : String
  fileHandle : String
deriving DecidableEq

/-- `relative_path.rsplit('/').next()` -/
def displayNameOf (relativePath : String) : String :=
  String.ofList (relativePath.toList.reverse.takeWhile (· ≠ '/')).reverse

def Classification.previewKind : Classification → String
  | inlineText => "text"
  | inlineImage _ => "image"
  | inlinePdf => "pdf"
  | attachment _ => "none"

/-- `query_file_metadata` of a verified file with this content. -/
def fileMetadata (infer : List UInt8 → Option String) (relativePath token : String)
    (content : List UInt8) : FileMetadata :=
  let classification := classify infer (content.take sniffPrefixBytes)
  let refused := (checkPreview classification content.length).toOption.isNone
  { displayName := displayNameOf relativePath
    mimeType := classification.contentType
    sizeBytes := content.length
    previewKind := if refused then "none" else classification.previewKind
    notPreviewableReason := if refused then "FILE_TYPE_NOT_PREVIEWABLE" else ""
    fileHandle := token }

/-! ## Where the first bytes end -/

/-- The sniffer's part of a file ends with the file or between two characters. -/
def CutBetweenCharacters (content : List UInt8) : Prop :=
  ∀ byte, content[sniffPrefixBytes]? = some byte → Utf8.isContinuation byte = false

variable {infer : List UInt8 → Option String} {content start : List UInt8}

/-- Without a signature, text is what can be read as UTF-8. -/
theorem classify_unknown (unknown : infer start = none) :
    classify infer start =
      if Utf8.isValid start then .inlineText else .attachment "application/octet-stream" := by
  simp only [classify, unknown]

theorem classify_unknown_iff (unknown : infer start = none) :
    classify infer start = .inlineText ↔ Utf8.isValid start = true := by
  rw [classify_unknown unknown]
  by_cases valid : Utf8.isValid start = true
  · simp [valid]
  · simp [valid]

theorem valid_start_iff (valid : Utf8.isValid content = true) :
    Utf8.isValid (content.take sniffPrefixBytes) = true ↔ CutBetweenCharacters content := by
  obtain ⟨text, rfl⟩ := Utf8.isValid_iff.mp valid
  exact Utf8.isValid_take

/-- **Sniffing**: a text that no signature recognises is classified as text, like the whole of
it, exactly when its first 8192 bytes do not end inside a character. -/
theorem sniffed_as_text_iff (infer : List UInt8 → Option String) (content : List UInt8)
    (valid : Utf8.isValid content = true) (unknown : infer content = none)
    (unknownStart : infer (content.take sniffPrefixBytes) = none) :
    (classify infer (content.take sniffPrefixBytes) = .inlineText ∧
      classify infer (content.take sniffPrefixBytes) = classify infer content) ↔
      CutBetweenCharacters content := by
  have whole : classify infer content = .inlineText := (classify_unknown_iff unknown).mpr valid
  rw [whole, and_self, classify_unknown_iff unknownStart, valid_start_iff valid]

/-! ## What comes of it -/

/-- A text that is cut inside a character has no preview, in either place. -/
theorem text_previewed_iff (valid : Utf8.isValid content = true)
    (unknownStart : infer (content.take sniffPrefixBytes) = none)
    (small : content.length ≤ maxTextPreviewBytes) (relativePath token : String) :
    ((fileMetadata infer relativePath token content).previewKind = "text" ↔
      CutBetweenCharacters content) ∧
    ((∃ slice, openSlice infer content .preview none = some (.ok slice)) ↔
      CutBetweenCharacters content) := by
  have downloadable : checkDownload content.length = .ok () := by
    have below : ¬ maxDownloadBytes < content.length := by
      simp only [maxTextPreviewBytes, maxDownloadBytes] at small ⊢
      omega
    exact if_neg below
  rw [← valid_start_iff valid]
  by_cases readable : Utf8.isValid (content.take sniffPrefixBytes) = true
  · have text := (classify_unknown_iff unknownStart).mpr readable
    have kept : checkPreview .inlineText content.length = .ok () := if_neg (Nat.not_lt.mpr small)
    constructor
    · simp [fileMetadata, text, kept, Except.toOption, Classification.previewKind, readable]
    · have checked : checkFile infer .preview content = .ok .inlineText := by
        simp [checkFile, downloadable, text, kept, bind, Except.bind, Except.mapError, pure,
          Except.pure]
      simp [openSlice, checked, readable]
  · have other := classify_unknown unknownStart
    rw [if_neg readable] at other
    have refused : checkPreview (.attachment "application/octet-stream") content.length =
        .error .typeUnsupported := rfl
    constructor
    · simp [fileMetadata, other, refused, Except.toOption, readable]
    · have checked : checkFile infer .preview content = .error (.notPreviewable .typeUnsupported) := by
        simp [checkFile, downloadable, other, refused, bind, Except.bind, Except.mapError]
      simp [openSlice, checked, readable]

/-! ## A text that is cut -/

/-- `n` letters and one character of two bytes. -/
def lettersThenAccent (n : Nat) : List UInt8 :=
  Utf8.encode (List.replicate n 'a' ++ ['é'])

theorem lettersThenAccent_bytes (n : Nat) :
    lettersThenAccent n = List.replicate n 0x61 ++ [0xC3, 0xA9] := by
  have letter : String.utf8EncodeChar 'a' = [0x61] := by decide +kernel
  have accent : String.utf8EncodeChar 'é' = [0xC3, 0xA9] := by decide +kernel
  rw [lettersThenAccent, Utf8.encode_append, Utf8.encode_cons, accent, Utf8.encode,
    List.flatMap_replicate, letter, List.flatten_replicate_singleton]
  rfl

theorem lettersThenAccent_valid (n : Nat) : Utf8.isValid (lettersThenAccent n) = true :=
  Utf8.isValid_iff.mpr ⟨_, rfl⟩

theorem lettersThenAccent_last (n : Nat) :
    (lettersThenAccent n)[n]? = some 0xC3 ∧ (lettersThenAccent n)[n + 1]? = some 0xA9 ∧
      0 ∉ lettersThenAccent n := by
  rw [lettersThenAccent_bytes, List.getElem?_append_right (by simp),
    List.getElem?_append_right (by simp)]
  simp

theorem sniffed_as_text_whole_character :
    classify (fun _ => none) ((lettersThenAccent 8192).take sniffPrefixBytes) = .inlineText ∧
      classify (fun _ => none) ((lettersThenAccent 8192).take sniffPrefixBytes) =
        classify (fun _ => none) (lettersThenAccent 8192) := by
  apply (sniffed_as_text_iff (fun _ => none) (lettersThenAccent 8192)
    (lettersThenAccent_valid 8192) rfl rfl).mpr
  intro byte found
  obtain ⟨lead, -⟩ := lettersThenAccent_last 8192
  rw [show sniffPrefixBytes = 8192 from rfl, lead, Option.some.injEq] at found
  rw [← found]
  decide

/-- With one letter less the cut is inside the last character. -/
theorem accent_not_sniffed :
    ¬ ∀ (infer : List UInt8 → Option String) (content : List UInt8),
      Utf8.isValid content = true → 0 ∉ content → infer content = none →
      infer (content.take sniffPrefixBytes) = none →
      classify infer (content.take sniffPrefixBytes) = .inlineText := by
  intro every
  obtain ⟨-, last, free⟩ := lettersThenAccent_last 8191
  have text := every (fun _ => none) (lettersThenAccent 8191) (lettersThenAccent_valid 8191) free
    rfl rfl
  rw [classify_unknown_iff rfl, valid_start_iff (lettersThenAccent_valid 8191)] at text
  exact absurd (text 0xA9 last) (by decide)

theorem accent_not_previewed :
    (fileMetadata (fun _ => none) "a.txt" "t" (lettersThenAccent 8191)).previewKind ≠ "text" := by
  have small : (lettersThenAccent 8191).length ≤ maxTextPreviewBytes := by
    rw [lettersThenAccent_bytes, List.length_append, List.length_replicate]
    decide
  intro text
  have cut := (text_previewed_iff (lettersThenAccent_valid 8191) rfl small "a.txt" "t").1.mp text
  exact absurd (cut 0xA9 (lettersThenAccent_last 8191).2.1) (by decide)

end AgentConsole.Transfer
