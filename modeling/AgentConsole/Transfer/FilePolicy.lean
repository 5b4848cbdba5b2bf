import AgentConsole.Bridge.Capabilities
import AgentConsole.Bridge.CatalogWalk
import AgentConsole.Lib.Utf8Decode

/-! # Preview and download of a file

`files/policy.rs`: what a file is by its first bytes, how large it may be, and which part of it
a range asks for.  `infer::get` is a parameter.  An addition or subtraction of `u64` that
overflows has no value. -/

namespace AgentConsole.Transfer

open AgentConsole.Lib
open AgentConsole.Bridge (StableErrorCode)
open AgentConsole.Bridge.Discovery (trim stripPrefix)

/-! ## Errors -/

inductive NotPreviewableReason where
  | typeUnsupported
  | sizeLimit (size limit : Nat)
deriving DecidableEq

inductive FilesError where
  | handleInvalid (reason : String)
  | outsideScope
  | changed
  | notPreviewable (reason : NotPreviewableReason)
  | transferExpired
  | tooLarge
  | rangeInvalid
  | io
  | tooManyTransfers
  | internal (reason : String)
deriving DecidableEq

def FilesError.stableCode : FilesError → StableErrorCode
  | .handleInvalid _ => .fileHandleInvalid
  | .outsideScope => .fileOutsideScope
  | .changed => .fileChanged
  | .notPreviewable _ => .fileTypeNotPreviewable
  | .transferExpired => .transferExpired
  | .tooLarge => .transferTooLarge
  | .rangeInvalid => .transferRangeInvalid
  | .tooManyTransfers => .rateLimited
  | .io | .internal _ => .internalError

/-! ## Limits and classification -/

def maxTextPreviewBytes : Nat := 2 * 1024 * 1024
def maxImagePreviewBytes : Nat := 25 * 1024 * 1024
def maxPdfPreviewBytes : Nat := 100 * 1024 * 1024
def maxDownloadBytes : Nat := 512 * 1024 * 1024
def sniffPrefixBytes : Nat := 8 * 1024

inductive Classification where
  | inlineText
  | inlineImage (mime : String)
  | inlinePdf
  | attachment (mime : String)
deriving DecidableEq

namespace Classification

def contentType : Classification → String
  | inlineText => "text/plain; charset=utf-8"
  | inlineImage mime | attachment mime => mime
  | inlinePdf => "application/pdf"

def isInline : Classification → Bool
  | attachment _ => false
  | _ => true

def previewLimit : Classification → Option Nat
  | inlineText => some maxTextPreviewBytes
  | inlineImage _ => some maxImagePreviewBytes
  | inlinePdf => some maxPdfPreviewBytes
  | attachment _ => none

end Classification

/-- `infer` is the table of magic numbers, which finds a MIME type or none. -/
def classify (infer : List UInt8 → Option String) (start : List UInt8) : Classification :=
  match infer start with
  | some mime =>
    if "text/".toList <+: mime.toList ∨ mime = "image/svg+xml" then .inlineText
    else if mime ∈ ["image/png", "image/jpeg", "image/webp", "image/gif"] then .inlineImage mime
    else if mime = "application/pdf" then .inlinePdf
    else .attachment mime
  | none => if Utf8.isValid start then .inlineText else .attachment "application/octet-stream"

def checkPreview (classification : Classification) (size : Nat) : Except NotPreviewableReason Unit :=
  match classification.previewLimit with
  | none => .error .typeUnsupported
  | some limit => if limit < size then .error (.sizeLimit size limit) else .ok ()

def checkDownload (size : Nat) : Except FilesError Unit :=
  if maxDownloadBytes < size then .error .tooLarge else .ok ()

/-! ## Numbers of 64 bits -/

def u64Add (a b : Nat) : Option Nat := if a + b < 2 ^ 64 then some (a + b) else none

def u64Sub (a b : Nat) : Option Nat := if b ≤ a then some (a - b) else none

/-- `u64::from_str`: a sign `+` may stand before the digits. -/
def parseU64 (text : List Char) : Option Nat :=
  let digits := if text.head? = some '+' then text.tail else text
  if digits ≠ [] ∧ digits.all Char.isDigit ∧ Nat.ofDigitChars 10 digits 0 < 2 ^ 64 then
    some (Nat.ofDigitChars 10 digits 0)
  else none

/-! ## A single range -/

structure HttpRange where
  start : Nat
  endInclusive : Nat
deriving DecidableEq

def HttpRange.len (range : HttpRange) : Option Nat := do
  u64Add (← u64Sub range.endInclusive range.start) 1

/-- `spec.split_once('-')` -/
def splitHyphen (spec : List Char) : Option (List Char × List Char) :=
  if '-' ∈ spec then some (spec.takeWhile (· ≠ '-'), (spec.dropWhile (· ≠ '-')).tail) else none

def parseSingleRange (header : List Char) (total : Nat) : Option (Except FilesError HttpRange) :=
  match (stripPrefix "bytes=".toList (trim header)).bind fun spec =>
    if ',' ∈ spec then none else splitHyphen (trim spec) with
  | none => some (.error .rangeInvalid)
  | some (startText, endText) =>
    if startText = [] then
      -- the last bytes
      match parseU64 (trim endText) with
      | none => some (.error .rangeInvalid)
      | some n =>
        if n = 0 ∨ total = 0 then some (.error .rangeInvalid)
        else (u64Sub total 1).map fun last => .ok ⟨total - n, last⟩
    else
      match parseU64 (trim startText) with
      | none => some (.error .rangeInvalid)
      | some start =>
        if total ≤ start then some (.error .rangeInvalid)
        else if endText = [] then (u64Sub total 1).map fun last => .ok ⟨start, last⟩
        else
          match parseU64 (trim endText) with
          | none => some (.error .rangeInvalid)
          | some last =>
            if last < start then some (.error .rangeInvalid)
            else (u64Sub total 1).map fun greatest => .ok ⟨start, min last greatest⟩

/-! ## Slices -/

inductive TransferMode where
  | preview
  | download
deriving DecidableEq

structure FileSlice where
  contentType : String
  inline : Bool
  body : List UInt8
  bodyLen : Nat
  contentRange : Option HttpRange
  totalLen : Nat
deriving DecidableEq

/-- The checks of `open_slice` that come before the range. -/
def checkFile (infer : List UInt8 → Option String) (mode : TransferMode) (content : List UInt8) :
    Except FilesError Classification := do
  checkDownload content.length
  let classification := classify infer (content.take sniffPrefixBytes)
  if mode = .preview then
    (checkPreview classification content.length).mapError .notPreviewable
  return classification

/-- `open_slice` of a file with this content. -/
def openSlice (infer : List UInt8 → Option String) (content : List UInt8) (mode : TransferMode)
    (rangeHeader : Option (List Char)) : Option (Except FilesError FileSlice) :=
  match checkFile infer mode content with
  | .error error => some (.error error)
  | .ok classification =>
    let slice (offset bodyLen : Nat) (contentRange : Option HttpRange) : FileSlice :=
      { contentType := classification.contentType
        inline := classification.isInline
        body := (content.drop offset).take bodyLen
        bodyLen, contentRange
        totalLen := content.length }
    match rangeHeader with
    | none => some (.ok (slice 0 content.length none))
    | some header =>
      match parseSingleRange header content.length with
      | none => none
      | some (.error error) => some (.error error)
      | some (.ok range) => range.len.map fun bodyLen => .ok (slice range.start bodyLen (some range))

end AgentConsole.Transfer
