import AgentConsole.Lib.Mpsc
import AgentConsole.Lib.Run
import AgentConsole.Transfer.Endpoints

/-! # Downloads

The Bridge reads the slice of a file and streams what it reads as the body of a request to the
Relay.  There a pump takes the body apart and puts the chunks into a channel, from which the
answer to the browser is written.  The five tasks that have a part in it, and whoever cancels
the transfer or changes the file, take their steps in any order.

Time is left out: a timer of the pump may be over whenever the pump waits for a chunk.  The
answer is written by the HTTP server, which ends a body of an announced length once it has
been written, and takes it for broken when there is less. -/

namespace AgentConsole.Transfer

open AgentConsole.Lib

def TRANSFER_CHUNK_BYTES : Nat := 64 * 1024
def CHANNEL_BUFFER_CHUNKS : Nat := 4

inductive IoErrorKind where
  | interrupted | timedOut | other
  deriving DecidableEq

inductive PumpExit where
  | eof | timeout | streamError | cancelled | sinkClosed
  deriving DecidableEq

/-- Where `pump_body` stands: it waits for a chunk, or for room in the channel. -/
inductive Pump where
  | reading
  | sending (chunk : List UInt8)
  | exited (exit : PumpExit)
  deriving DecidableEq

/-- The body of the request: the Bridge is at it, has ended it, or it was cut off. -/
inductive Link where
  | flowing | ended | broken
  deriving DecidableEq

inductive Ending where
  | complete | broken
  deriving DecidableEq

/-- `read` has the bytes that the Bridge has read, and `lost` tells that an error found no room in
the channel.  The two are ghosts. -/
structure Download where
  slice : FileSlice
  /-- of the answer -/
  contentLength : Option Nat
  file : List UInt8
  read : List UInt8 := []
  wire : List UInt8 := []
  link : Link := .flowing
  cancelled : Bool := false
  pump : Pump := .reading
  channel : Mpsc (Except IoErrorKind (List UInt8)) CHANNEL_BUFFER_CHUNKS := .channel
  lost : Bool := false
  received : List UInt8 := []
  ending : Option Ending := none

inductive DownloadInput where
  /-- Another program writes the file. -/
  | overwrite (content : List UInt8)
  /-- The Bridge reads from the file, no more than `n + 1` bytes. -/
  | reads (n : Nat)
  /-- The Bridge gives up, or the connection is lost. -/
  | breaks
  /-- The transfer is cancelled, or removed from the registry. -/
  | cancel
  /-- The pump gets a chunk of the body, no more than `n + 1` bytes. -/
  | takes (n : Nat)
  | ends
  | fails
  | timeout
  | stops
  /-- The pump puts its chunk into the channel. -/
  | sends
  /-- The server asks for the next piece of the answer. -/
  | polls
  | disconnects
  deriving DecidableEq

/-- The file is written or read. -/
def DownloadInput.isSource : DownloadInput → Bool
  | .overwrite _ | .reads _ => true
  | _ => false

/-- The position of a slice in its file. -/
def FileSlice.offset (slice : FileSlice) : Nat := (slice.contentRange.map (·.start)).getD 0

namespace Download

variable (d : Download)

/-- The next piece that the Bridge gets of the slice, which is empty at its end. -/
def nextRead (n : Nat) : List UInt8 :=
  ((d.file.drop (d.slice.offset + d.read.length)).take (d.slice.bodyLen - d.read.length)).take
    (min (n + 1) TRANSFER_CHUNK_BYTES)

def produce (n : Nat) : Download :=
  if d.link ≠ .flowing then d
  else if d.nextRead n = [] then { d with link := .ended }
  else { d with read := d.read ++ d.nextRead n, wire := d.wire ++ d.nextRead n }

/-- The pump ends, and its sender is dropped. -/
def exit (exit : PumpExit) : Download :=
  { d with pump := .exited exit, channel := d.channel.dropSender }

/-- The pump ends with an error, which it does not wait to get rid of. -/
def exitWith (exit : PumpExit) (kind : IoErrorKind) : Download :=
  let (sent, channel) := d.channel.trySend (.error kind)
  { d with channel, lost := d.lost || sent ≠ Sent.ok }.exit exit

def send (chunk : List UInt8) : Download :=
  match d.channel.trySend (.ok chunk) with
  | (.ok, channel) => { d with channel, pump := .reading }
  | (.full, _) => d
  | (.closed, _) => d.exit .sinkClosed

/-- The answer has come to an end for the browser, and its body is dropped. -/
def finish (ending : Ending) : Download :=
  { d with ending := some ending, channel := d.channel.dropReceiver }

/-- What the server writes of a chunk. -/
def fitting (chunk : List UInt8) : List UInt8 :=
  match d.contentLength with
  | none => chunk
  | some length => chunk.take (length - d.received.length)

def poll : Download :=
  if d.contentLength = some d.received.length then d.finish .complete
  else
    match d.channel.recv with
    | none => d
    | some (some (.ok chunk), channel) =>
      { d with received := d.received ++ d.fitting chunk, channel }
    | some (some (.error _), _) => d.finish .broken
    | some (none, _) => d.finish (if d.contentLength = none then .complete else .broken)

def step (d : Download) : DownloadInput → Download
  | .overwrite content => { d with file := content }
  | .reads n => d.produce n
  | .breaks => { d with link := .broken }
  | .cancel => { d with cancelled := true }
  | .takes n =>
    if d.pump = .reading ∧ d.wire ≠ [] then
      { d with pump := .sending (d.wire.take (n + 1)), wire := d.wire.drop (n + 1) }
    else d
  | .ends => if d.pump = .reading ∧ d.wire = [] ∧ d.link = .ended then d.exit .eof else d
  | .fails => if d.pump = .reading ∧ d.link = .broken then d.exitWith .streamError .other else d
  | .timeout => if d.pump = .reading then d.exitWith .timeout .timedOut else d
  | .stops =>
    if d.pump = .reading ∧ d.cancelled = true then d.exitWith .cancelled .interrupted else d
  | .sends =>
    -- while it waits for room, `pump_body` does not hear of a cancellation
    match d.pump with
    | .sending chunk => d.send chunk
    | _ => d
  | .polls => if d.ending = none then d.poll else d
  | .disconnects => if d.ending = none then d.finish .broken else d

end Download

/-- A slice that the Bridge has opened, with the endpoint and the name of the request. -/
structure Opened where
  infer : List UInt8 → Option String
  content : List UInt8
  mode : TransferMode
  rangeHeader : Option (List Char)
  slice : FileSlice
  opened : openSlice infer content mode rangeHeader = some (.ok slice)
  endpoint : Endpoint
  fileName : Option String

namespace Opened

variable (o : Opened)

def response : FileResponse :=
  fileResponse o.endpoint o.fileName (downloadMetaHeaders o.slice) o.slice.body

def start : Download where
  slice := o.slice
  contentLength := o.response.contentLength
  file := o.content

def run (inputs : List DownloadInput) : Download := inputs.foldl Download.step o.start

end Opened

/-! ## The bytes on their way -/

/-- The bytes of a value of the channel. -/
def chunkOf : Except IoErrorKind (List UInt8) → List UInt8
  | .ok chunk => chunk
  | .error _ => []

def Pump.inHand : Pump → List UInt8
  | sending chunk => chunk
  | _ => []

namespace Download

/-- What has not been taken from the channel. -/
def queued (d : Download) : List UInt8 := d.channel.queue.flatMap chunkOf

def Fails (d : Download) : Prop := d.lost = true ∨ ∃ kind, .error kind ∈ d.channel.queue

/-- The answer may end as it does: it has the length that was announced, or, where none was, all
that was read, unless an error was lost. -/
structure Whole (d : Download) : Prop where
  announced : ∀ length, d.contentLength = some length → d.received.length = length
  unannounced : d.contentLength = none →
    d.lost = true ∨ d.pump = .exited .eof ∧ d.received = d.read

structure Inv (d : Download) : Prop where
  length : d.contentLength = none ∨ d.contentLength = some d.slice.bodyLen
  bounded : d.read.length ≤ d.slice.bodyLen
  inOrder : d.received <+: d.read
  /-- Nothing is missing as long as the answer goes on. -/
  flows : d.ending = none → d.channel.receiver = true ∧
    d.received ++ (d.queued ++ (d.pump.inHand ++ d.wire)) = d.read
  closed : d.channel.sender = false → ∃ exit, d.pump = .exited exit
  eof : d.pump = .exited .eof → d.link ≠ .flowing ∧ d.wire = []
  fails : ∀ exit, d.pump = .exited exit → exit ≠ .eof → d.ending = none → d.Fails
  complete : d.ending = some .complete → d.Whole

variable {d : Download}

/-- The end of the answer does not change what was received. -/
theorem Inv.finish (inv : Inv d) {ending : Ending} (whole : ending = .complete → d.Whole) :
    Inv (d.finish ending) where
  length := inv.length
  bounded := inv.bounded
  inOrder := inv.inOrder
  flows ended := by cases ended
  closed := inv.closed
  eof := inv.eof
  fails _ _ _ ended := by cases ended
  complete ended := { whole (Option.some.inj ended) with }

/-- What is whole without the pump stays so. -/
theorem Whole.running {d' : Download} (whole : d.Whole) (busy : d.pump ≠ .exited .eof)
    (length : d'.contentLength = d.contentLength) (received : d'.received = d.received)
    (lost : d.lost = true → d'.lost = true) : d'.Whole where
  announced n is := received ▸ whole.announced n (length ▸ is)
  unannounced is := .inl (lost ((whole.unannounced (length ▸ is)).resolve_right fun there =>
    busy there.1))

theorem Inv.produce (inv : Inv d) (n : Nat) : Inv (d.produce n) := by
  unfold Download.produce
  split
  · exact inv
  · next flowing =>
    have running : d.pump ≠ .exited .eof := fun eof => (inv.eof eof).1 (not_not.mp flowing)
    split
    · exact { inv with
        eof := fun eof => absurd eof running
        complete := fun ended => (inv.complete ended).running running rfl rfl id }
    · have bounded : (d.read ++ d.nextRead n).length ≤ d.slice.bodyLen := by
        have := inv.bounded
        simp only [nextRead, List.length_append, List.length_take]
        omega
      refine { inv with
        bounded
        inOrder := inv.inOrder.trans (List.prefix_append ..)
        flows := fun going => ?_
        eof := fun eof => absurd eof running
        complete := fun ended => (inv.complete ended).running running rfl rfl id }
      obtain ⟨there, same⟩ := inv.flows going
      refine ⟨there, ?_⟩
      simp only [← same, List.append_assoc]
      rfl

/-- The pump ends: at the end of the body, with an error, or where nobody receives. -/
theorem Inv.exit (inv : Inv d) {exit : PumpExit} (busy : d.pump ≠ .exited .eof)
    (eof : exit = .eof → d.wire = [] ∧ d.link ≠ .flowing)
    (reading : d.ending = none → d.pump = .reading)
    (fails : exit ≠ .eof → d.ending = none → d.Fails) : Inv (d.exit exit) where
  length := inv.length
  bounded := inv.bounded
  inOrder := inv.inOrder
  flows going := by
    obtain ⟨there, same⟩ := inv.flows going
    rw [reading going] at same
    exact ⟨there, same⟩
  closed _ := ⟨exit, rfl⟩
  eof ended := by
    cases ended
    exact (eof rfl).symm
  fails e same other going := by
    cases same
    exact fails other going
  complete ended := (inv.complete ended).running busy rfl rfl id

/-- What is tried to be sent is the last value of the channel, or the channel stays. -/
theorem trySend_cases {value : Except IoErrorKind (List UInt8)} {sent : Sent}
    {channel : Mpsc (Except IoErrorKind (List UInt8)) CHANNEL_BUFFER_CHUNKS}
    (tried : d.channel.trySend value = (sent, channel)) :
    channel.sender = d.channel.sender ∧ channel.receiver = d.channel.receiver ∧
      (sent = .ok ∧ channel.queue = d.channel.queue ++ [value] ∨
        sent ≠ .ok ∧ channel = d.channel) := by
  by_cases taken : sent = .ok
  · subst taken
    obtain ⟨queue, there, there', sender, -⟩ := Mpsc.trySend_ok tried
    exact ⟨sender, there'.trans there.symm, .inl ⟨rfl, queue⟩⟩
  · have refused : (d.channel.trySend value).1 ≠ .ok := by simpa [tried]
    have same := (Mpsc.trySend_refused refused).1
    rw [tried] at same
    subst same
    exact ⟨rfl, rfl, .inr ⟨taken, rfl⟩⟩

theorem Inv.exitWith (inv : Inv d) (exit : PumpExit) (kind : IoErrorKind)
    (reading : d.pump = .reading) (other : exit ≠ .eof) : Inv (d.exitWith exit kind) := by
  have busy : d.pump ≠ .exited .eof := by simp [reading]
  unfold Download.exitWith
  cases tried : d.channel.trySend (.error kind) with
  | mk sent channel =>
    obtain ⟨sender, receiver, put⟩ := trySend_cases tried
    have bytes : channel.queue.flatMap chunkOf = d.queued := by
      rcases put with ⟨-, queue⟩ | ⟨-, rfl⟩
      · simp [queue, queued, chunkOf]
      · rfl
    have next : Inv { d with channel, lost := d.lost || sent ≠ Sent.ok } :=
      { inv with
        flows := fun going => by
          obtain ⟨there, same⟩ := inv.flows going
          refine ⟨receiver.trans there, ?_⟩
          rwa [← bytes] at same
        closed := fun gone => inv.closed (sender.symm.trans gone)
        fails := fun e ended => by simp [reading] at ended
        complete := fun ended => (inv.complete ended).running busy rfl rfl (by simp +contextual) }
    refine next.exit busy (fun last => absurd last other) (fun _ => reading) fun _ _ => ?_
    rcases put with ⟨-, queue⟩ | ⟨refused, -⟩
    · exact .inr ⟨kind, by simp [queue]⟩
    · exact .inl (by simp [refused])

theorem Inv.send (inv : Inv d) {chunk : List UInt8} (sending : d.pump = .sending chunk) :
    Inv (d.send chunk) := by
  have busy : d.pump ≠ .exited .eof := by simp [sending]
  unfold Download.send
  split
  · next channel tried =>
    obtain ⟨sender, receiver, put⟩ := trySend_cases tried
    obtain ⟨-, queue⟩ := put.resolve_right fun refused => refused.1 rfl
    exact { inv with
      flows := fun going => by
        obtain ⟨there, same⟩ := inv.flows going
        refine ⟨receiver.trans there, ?_⟩
        simp only [queued, queue, List.flatMap_append]
        simpa [sending, queued, Pump.inHand, chunkOf] using same
      closed := fun gone => by
        obtain ⟨e, ended⟩ := inv.closed (sender.symm.trans gone)
        simp [sending] at ended
      eof := fun ended => by cases ended
      fails := fun e ended => by cases ended
      complete := fun ended => (inv.complete ended).running busy rfl rfl id }
  · exact inv
  · next channel tried =>
    -- somebody receives as long as the answer goes on
    have gone : d.ending ≠ none := by
      intro going
      have there := (inv.flows going).1
      have refused : (d.channel.trySend (.ok chunk)).1 ≠ .ok := by simp [tried]
      obtain ⟨-, full | away⟩ := Mpsc.trySend_refused refused
      · unfold Mpsc.trySend at tried
        simp [there, full] at tried
      · simp [there] at away
    exact inv.exit busy (fun last => by cases last) (fun going => absurd going gone)
      fun _ going => absurd going gone

theorem Inv.poll (inv : Inv d) (going : d.ending = none) : Inv d.poll := by
  obtain ⟨there, same⟩ := inv.flows going
  unfold Download.poll
  split
  · next full =>
    refine inv.finish fun _ => ⟨fun length is => ?_, fun none_ => ?_⟩
    · exact Option.some.inj (full.symm.trans is)
    · simp [none_] at full
  · next more =>
    split
    · exact inv
    · next chunk channel taken =>
      obtain ⟨queue, sender, receiver⟩ := Mpsc.recv_value taken
      have bytes : d.queued = chunk ++ channel.queue.flatMap chunkOf := by
        simp [queued, queue, chunkOf]
      have fits : d.fitting chunk = chunk := by
        unfold fitting
        rcases inv.length with none_ | some_
        · simp [none_]
        · have all := congrArg List.length same
          have := inv.bounded
          simp only [some_]
          refine List.take_of_length_le ?_
          simp only [bytes, List.length_append] at all
          omega
      rw [fits]
      rw [bytes] at same
      exact { inv with
        inOrder := by rw [← same]; simp
        flows := fun _ => ⟨receiver.trans there, by simpa [queued] using same⟩
        closed := fun gone => inv.closed (sender.symm.trans gone)
        fails := fun e ended other _ => (inv.fails e ended other going).imp_right fun found => by
          simpa [queue] using found
        complete := fun ended => by simp [going] at ended }
    · exact inv.finish fun whole => by cases whole
    · next taken =>
      obtain ⟨-, queue, gone⟩ := Mpsc.recv_end taken
      obtain ⟨e, ended⟩ := inv.closed gone
      refine inv.finish fun whole => ⟨fun length is => ?_, fun none_ => ?_⟩
      · simp [is] at whole
      · by_cases last : e = .eof
        · subst last
          refine .inr ⟨ended, ?_⟩
          simpa [queued, queue, ended, Pump.inHand, (inv.eof ended).2] using same
        · exact .inl (by simpa [Fails, queue] using inv.fails e ended last going)

theorem Inv.step (inv : Inv d) (input : DownloadInput) : Inv (d.step input) := by
  cases input with
  | overwrite content => exact { inv with complete := fun ended => { inv.complete ended with } }
  | reads n => exact inv.produce n
  | breaks =>
    exact { inv with
      eof := fun ended => ⟨Link.noConfusion, (inv.eof ended).2⟩
      complete := fun ended => { inv.complete ended with } }
  | cancel => exact { inv with complete := fun ended => { inv.complete ended with } }
  | takes n =>
    simp only [Download.step]
    split
    · next ready =>
      have busy : d.pump ≠ .exited .eof := by simp [ready.1]
      exact { inv with
        flows := fun going => by
          obtain ⟨there, same⟩ := inv.flows going
          refine ⟨there, ?_⟩
          simpa [ready.1, Pump.inHand, queued] using same
        closed := fun gone => by
          obtain ⟨e, ended⟩ := inv.closed gone
          simp [ready.1] at ended
        eof := fun ended => by cases ended
        fails := fun e ended => by cases ended
        complete := fun ended => (inv.complete ended).running busy rfl rfl id }
    · exact inv
  | ends =>
    simp only [Download.step]
    split
    · next met =>
      obtain ⟨reading, empty, ended⟩ := met
      exact inv.exit (by simp [reading]) (fun _ => ⟨empty, by simp [ended]⟩) (fun _ => reading)
        fun other => absurd rfl other
    · exact inv
  | fails =>
    simp only [Download.step]
    split
    · next met => exact inv.exitWith _ _ met.1 (by simp)
    · exact inv
  | timeout =>
    simp only [Download.step]
    split
    · next reading => exact inv.exitWith _ _ reading (by simp)
    · exact inv
  | stops =>
    simp only [Download.step]
    split
    · next met => exact inv.exitWith _ _ met.1 (by simp)
    · exact inv
  | sends =>
    simp only [Download.step]
    split
    · next chunk sending => exact inv.send sending
    · exact inv
  | polls =>
    simp only [Download.step]
    split
    · next going => exact inv.poll going
    · exact inv
  | disconnects =>
    simp only [Download.step]
    split
    · exact inv.finish fun whole => by cases whole
    · exact inv

/-! ## The source -/

/-- A step that reads nothing, and is no end of the slice. -/
structure Rests (d d' : Download) : Prop where
  slice : d'.slice = d.slice
  contentLength : d'.contentLength = d.contentLength
  file : d'.file = d.file
  read : d'.read = d.read
  ended : d'.link = .ended ∨ d'.pump = .exited .eof → d.link = .ended ∨ d.pump = .exited .eof

theorem rests_step {input : DownloadInput} (other : input.isSource = false) :
    Rests d (d.step input) := by
  cases input with
  | overwrite | reads => cases other
  | takes n =>
    simp only [Download.step]
    split <;> constructor <;> simp +contextual
  | ends =>
    simp only [Download.step, exit]
    split <;> constructor <;> simp +contextual [*]
  | _ =>
    simp only [Download.step, exit, exitWith, send, finish, poll]
    repeat' split
    all_goals constructor <;> simp +contextual

/-- The slice of a file that nobody writes. -/
structure Kept (content : List UInt8) (d : Download) : Prop where
  file : d.file = content
  body : d.slice.body = (content.drop d.slice.offset).take d.slice.bodyLen
  read : d.read <+: d.slice.body
  ended : d.link = .ended ∨ d.pump = .exited .eof → d.read = d.slice.body

variable {content : List UInt8}

/-- What is read comes next in the slice, and nothing is read at its end only. -/
theorem Kept.nextRead (kept : Kept content d) (n : Nat) :
    d.read ++ d.nextRead n <+: d.slice.body ∧ (d.nextRead n = [] → d.read = d.slice.body) := by
  obtain ⟨rest, whole⟩ := kept.read
  have next : d.nextRead n = rest.take (min (n + 1) TRANSFER_CHUNK_BYTES) := by
    have behind : d.slice.body.drop d.read.length = rest := by
      rw [← whole, List.drop_left]
    rw [Download.nextRead, kept.file, ← behind, kept.body, List.drop_take, List.drop_drop]
  rw [next, ← whole]
  refine ⟨(List.prefix_append_right_inj _).mpr (List.take_prefix ..), fun empty => ?_⟩
  have positive : min (n + 1) TRANSFER_CHUNK_BYTES ≠ 0 := by
    simp only [TRANSFER_CHUNK_BYTES]
    omega
  simpa [positive] using empty

theorem Kept.step (kept : Kept content d) {input : DownloadInput}
    (unwritten : ∀ other, input ≠ .overwrite other) : Kept content (d.step input) := by
  by_cases source : input.isSource = true
  · cases input with
    | overwrite other => exact absurd rfl (unwritten other)
    | reads n =>
      obtain ⟨next, last⟩ := kept.nextRead n
      simp only [Download.step, produce]
      split
      · exact kept
      · split
        · next empty => exact { kept with ended := fun _ => last empty }
        · refine { kept with read := next, ended := fun ended => ?_ }
          have before := kept.ended ended
          have same := next.length_le
          simp only [before, List.length_append] at same ⊢
          rw [List.eq_nil_of_length_eq_zero (l := d.nextRead n) (by omega), List.append_nil]
    | _ => cases source
  · have rests := rests_step (d := d) (by simpa using source)
    exact {
      file := rests.file.trans kept.file
      body := by rw [rests.slice]; exact kept.body
      read := by rw [rests.slice, rests.read]; exact kept.read
      ended := fun ended => by
        rw [rests.slice, rests.read]
        exact kept.ended (rests.ended ended) }

theorem Kept.run {inputs : List DownloadInput} (kept : Kept content d)
    (unwritten : ∀ other, .overwrite other ∉ inputs) :
    Kept content (inputs.foldl Download.step d) := by
  induction inputs generalizing d with
  | nil => exact kept
  | cons input inputs inductionHypothesis =>
    refine inductionHypothesis (kept.step fun other => ?_) fun other later => ?_
    · rintro rfl
      exact unwritten other (List.mem_cons_self ..)
    · exact unwritten other (List.mem_cons_of_mem _ later)

/-- What the answer was announced with stays. -/
theorem slice_step (d : Download) (input : DownloadInput) :
    ((d.step input).slice, (d.step input).contentLength) = (d.slice, d.contentLength) := by
  cases input with
  | overwrite => rfl
  | reads n =>
    simp only [Download.step, produce]
    repeat' split
    all_goals rfl
  | _ => exact Prod.ext (rests_step rfl).slice (rests_step rfl).contentLength

end Download

/-! ## Every run -/

namespace Opened

open Download

variable (o : Opened)

theorem slice_spec : o.slice.body = (o.content.drop o.slice.offset).take o.slice.bodyLen ∧
    o.slice.totalLen = o.content.length ∧
      (o.slice.contentRange = none → o.slice.bodyLen = o.content.length) := by
  have opened := o.opened
  unfold openSlice at opened
  split at opened
  · simp at opened
  · simp only at opened
    split at opened
    · simp only [Option.some.injEq, Except.ok.injEq] at opened
      simp [← opened, FileSlice.offset]
    · split at opened
      · cases opened
      · simp at opened
      · next range _ =>
        obtain ⟨bodyLen, -, same⟩ := Option.map_eq_some_iff.mp opened
        simp only [Except.ok.injEq] at same
        simp [← same, FileSlice.offset]

/-- The length that the answer is announced with, if any. -/
theorem contentLength_eq : o.response.contentLength =
    if o.slice.contentRange = none then some o.content.length else none := by
  cases range : o.slice.contentRange <;>
    simp [response, fileResponse, downloadMetaHeaders, range, o.slice_spec.2.1]

theorem inv_run (inputs : List DownloadInput) : Inv (o.run inputs) := by
  have begun : Inv o.start := by
    constructor <;> simp [start, Mpsc.channel, queued, Pump.inHand, contentLength_eq]
    cases range : o.slice.contentRange <;> simp [o.slice_spec.2.2, range]
  rw [run]
  generalize o.start = d at begun
  induction inputs generalizing d with
  | nil => exact begun
  | cons input inputs inductionHypothesis => exact inductionHypothesis _ (begun.step input)

theorem announced (inputs : List DownloadInput) : (o.run inputs).slice = o.slice ∧
    (o.run inputs).contentLength = o.response.contentLength :=
  Prod.mk.inj (foldl_unchanged Download.step (fun d => (d.slice, d.contentLength)) slice_step
    inputs o.start)

/-- Whatever becomes of the file, a browser gets what the Bridge has read, in order; and an answer
to a request without a range that ends well has as many bytes as were announced. -/
theorem download_inOrder (inputs : List DownloadInput) :
    (o.run inputs).received <+: (o.run inputs).read ∧
      (o.slice.contentRange = none → (o.run inputs).ending = some .complete →
        (o.run inputs).received = (o.run inputs).read ∧
          (o.run inputs).received.length = o.content.length) := by
  have inv := o.inv_run inputs
  obtain ⟨same, length⟩ := o.announced inputs
  refine ⟨inv.inOrder, fun unranged complete => ?_⟩
  have all := (inv.complete complete).announced o.content.length
    (by rw [length, contentLength_eq, if_pos unranged])
  refine ⟨inv.inOrder.eq_of_length_le ?_, all⟩
  rw [all, ← o.slice_spec.2.2 unranged, ← same]
  exact inv.bounded

/-- As long as nobody writes the file, a browser gets a part of the slice from its start, and an
answer that ends well is the whole slice, unless it was to a request with a range and the error
that should have ended it found no room in the channel. -/
theorem download_exact {inputs : List DownloadInput}
    (unwritten : ∀ other, .overwrite other ∉ inputs) :
    (o.run inputs).received <+: o.response.body ∧
      ((o.run inputs).ending = some .complete →
        o.slice.contentRange = none ∨ (o.run inputs).lost = false →
          (o.run inputs).received = o.response.body) := by
  have inv := o.inv_run inputs
  obtain ⟨same, length⟩ := o.announced inputs
  obtain ⟨body, -, whole⟩ := o.slice_spec
  have kept : Kept o.content (o.run inputs) :=
    Kept.run ⟨rfl, body, List.nil_prefix, by simp [start]⟩ unwritten
  have read := kept.read
  have ended := kept.ended
  rw [same] at read ended
  refine ⟨inv.inOrder.trans read, fun complete sure => ?_⟩
  by_cases unranged : o.slice.contentRange = none
  · obtain ⟨all, long⟩ := (o.download_inOrder inputs).2 unranged complete
    rw [all] at long ⊢
    refine read.eq_of_length_le ?_
    rw [long, ← whole unranged, body]
    exact List.length_take_le ..
  · obtain ⟨eof, all⟩ := ((inv.complete complete).unannounced
      (by rw [length, contentLength_eq, if_neg unranged])).resolve_left
        (by simp [sure.resolve_left unranged])
    rw [all, ended (.inr eof)]
    rfl

/-! ### An error that is lost -/

/-- All but the first byte of a file. -/
def middle : Opened where
  infer _ := none
  content := [97, 98, 99, 100, 101, 102]
  mode := .preview
  rangeHeader := some "bytes=1-5".toList
  slice := ⟨"text/plain; charset=utf-8", true, [98, 99, 100, 101, 102], 5, some ⟨1, 5⟩, 6⟩
  opened := by decide +kernel
  endpoint := .preview
  fileName := none

/-- The channel is full with four of the five bytes when the connection breaks. -/
example : let d := middle.run ([.reads 4] ++ (List.replicate 4 [.takes 0, .sends]).flatten ++
      [.breaks, .fails] ++ List.replicate 5 .polls)
    d.ending = some .complete ∧ d.received = [98, 99, 100, 101] := by
  decide +kernel

theorem download_exact_middle :
    (middle.run [.reads 9, .takes 9, .sends, .polls, .reads 9, .ends, .polls]).received =
      [98, 99, 100, 101, 102] := by
  refine (middle.download_exact ?_).2 (by decide +kernel) (.inr (by decide +kernel))
  simp

end Opened

end AgentConsole.Transfer
