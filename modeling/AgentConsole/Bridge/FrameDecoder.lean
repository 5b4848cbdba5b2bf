import AgentConsole.Lib.Chunks
import Mathlib

/-! # IPC frames

`adapter/codex/ipc/frame.rs`: a frame is a little-endian `u32` length and that many bytes of
JSON.  The decoder keeps the bytes that have arrived and, once it has taken a length off them,
that length.

`Serde` is `serde_json`. -/

namespace AgentConsole.Bridge.Frame

open AgentConsole.Lib

/-- `serde_json`: its values, their text, and the value of a text. -/
structure Serde where
  Value : Type
  isObject : Value → Bool
  toString : Value → Except String String
  fromStr : String → Option Value

/-- The text of an object reads back as the object. -/
def Serde.RoundTrips (serde : Serde) : Prop :=
  ∀ value text, serde.isObject value = true → serde.toString value = .ok text →
    serde.fromStr text = some value

inductive FrameError where
  | tooLarge (announced limit : Nat)
  | zeroLength
  | invalidUtf8
  | notAnObject
  | encode (message : String)
  deriving DecidableEq, Repr

/-! ## Lengths -/

/-- `put_u32_le(len as u32)` -/
def u32Le (len : Nat) : List UInt8 :=
  [UInt8.ofNat len, UInt8.ofNat (len / 2 ^ 8), UInt8.ofNat (len / 2 ^ 16),
    UInt8.ofNat (len / 2 ^ 24)]

/-- `u32::from_le_bytes` -/
def u32FromLe (b0 b1 b2 b3 : UInt8) : Nat :=
  b0.toNat + 2 ^ 8 * b1.toNat + 2 ^ 16 * b2.toNat + 2 ^ 24 * b3.toNat

theorem u32FromLe_lt (b0 b1 b2 b3 : UInt8) : u32FromLe b0 b1 b2 b3 < 2 ^ 32 := by
  have := b0.toNat_lt
  have := b1.toNat_lt
  have := b2.toNat_lt
  have := b3.toNat_lt
  unfold u32FromLe
  omega

@[simp] theorem u32Le_u32FromLe (b0 b1 b2 b3 : UInt8) :
    u32Le (u32FromLe b0 b1 b2 b3) = [b0, b1, b2, b3] := by
  have := b0.toNat_lt
  have := b1.toNat_lt
  have := b2.toNat_lt
  have := b3.toNat_lt
  simp only [u32Le, u32FromLe, List.cons.injEq, and_true]
  refine ⟨?_, ?_, ?_, ?_⟩ <;> apply UInt8.toNat_inj.mp <;> rw [UInt8.toNat_ofNat'] <;> omega

theorem u32Le_bytes {len : Nat} (small : len < 2 ^ 32) :
    ∃ b0 b1 b2 b3, u32Le len = [b0, b1, b2, b3] ∧ u32FromLe b0 b1 b2 b3 = len := by
  refine ⟨_, _, _, _, rfl, ?_⟩
  simp only [u32FromLe, UInt8.toNat_ofNat']
  omega

/-! ## The decoder -/

/-- `max_frame_bytes`, as `FrameDecoder::new` asserts it. -/
structure Limit where
  maxFrameBytes : Nat
  least : 8 ≤ maxFrameBytes
  u32 : maxFrameBytes < 2 ^ 32

/-- `check_limit` -/
def checkLimit (limit : Limit) (announced : Nat) : Except FrameError Unit :=
  if announced = 0 then .error .zeroLength
  else if limit.maxFrameBytes < announced then
    .error (.tooLarge announced limit.maxFrameBytes)
  else .ok ()

theorem checkLimit_ok {limit : Limit} {announced : Nat} :
    checkLimit limit announced = .ok () ↔ 0 < announced ∧ announced ≤ limit.maxFrameBytes := by
  unfold checkLimit
  split
  · simp; omega
  · split
    · simp; omega
    · simp; omega

/-- `str::from_utf8`, `serde_json::from_str` and `is_object` of a payload. -/
def parse (serde : Serde) (payload : List UInt8) : Except FrameError serde.Value :=
  match String.fromUTF8? payload.toByteArray with
  | none => .error .invalidUtf8
  | some text =>
    match serde.fromStr text with
    | none => .error .notAnObject
    | some value => if serde.isObject value then .ok value else .error .notAnObject

/-- `FrameDecoder`, with `max_frame_bytes`, which never changes, in its type.  A length it has
taken off the buffer is one that it accepts. -/
structure FrameDecoder (limit : Limit) where
  buf : List UInt8
  currentLen : Option Nat
  accepted : ∀ len, currentLen = some len → checkLimit limit len = .ok ()

namespace FrameDecoder

variable {limit : Limit}

/-- `FrameDecoder::new` -/
def new (limit : Limit) : FrameDecoder limit :=
  { buf := [], currentLen := none, accepted := by simp }

/-- `push` -/
def push (d : FrameDecoder limit) (chunk : List UInt8) :
    FrameDecoder limit × Except FrameError Unit :=
  let buf := d.buf ++ chunk
  ({ d with buf },
    match d.currentLen, buf with
    | some len, _ => checkLimit limit len
    | none, b0 :: b1 :: b2 :: b3 :: _ => checkLimit limit (u32FromLe b0 b1 b2 b3)
    | none, _ => .ok ())

/-- The length prefix in `next_frame`: the announced length, taken off the buffer. -/
def takeLen (d : FrameDecoder limit) : FrameDecoder limit × Except FrameError (Option Nat) :=
  match d.currentLen, d.buf with
  | some len, _ => (d, .ok (some len))
  | none, b0 :: b1 :: b2 :: b3 :: rest =>
    match h : checkLimit limit (u32FromLe b0 b1 b2 b3) with
    | .error error => (d, .error error)
    | .ok () =>
      ({ buf := rest
         currentLen := some (u32FromLe b0 b1 b2 b3)
         accepted := fun _ same => Option.some.inj same ▸ h },
        .ok (some (u32FromLe b0 b1 b2 b3)))
  | none, _ => (d, .ok none)

/-- `split_to(need)` and `current_len = None`. -/
def splitTo (d : FrameDecoder limit) (need : Nat) : FrameDecoder limit :=
  { buf := d.buf.drop need, currentLen := none, accepted := by simp }

/-- The payload in `next_frame`, of an announced length. -/
def takePayload (serde : Serde) (d : FrameDecoder limit) (need : Nat) :
    FrameDecoder limit × Except FrameError (Option serde.Value) :=
  if d.buf.length < need then (d, .ok none)
  else (d.splitTo need, (parse serde (d.buf.take need)).map some)

/-- `next_frame` -/
def nextFrame (serde : Serde) (d : FrameDecoder limit) :
    FrameDecoder limit × Except FrameError (Option serde.Value) :=
  match d.takeLen with
  | (d, .error error) => (d, .error error)
  | (d, .ok none) => (d, .ok none)
  | (d, .ok (some need)) => d.takePayload serde need

end FrameDecoder

/-! ## The encoder -/

/-- `encode_frame`, with `From<FrameEncodeError>` for its error. -/
def encodeFrame (serde : Serde) (value : serde.Value) (maxFrameBytes : Nat) :
    Except FrameError (List UInt8) :=
  match serde.toString value with
  | .error message => .error (.encode message)
  | .ok text =>
    let payload := text.toByteArray.data.toList
    if payload.isEmpty || decide (maxFrameBytes < payload.length) then
      .error (.tooLarge (payload.length % 2 ^ 32) maxFrameBytes)
    else .ok (u32Le payload.length ++ payload)

/-! ## The format -/

/-- The frame at the front of some bytes. -/
def front (limit : Limit) (serde : Serde) (bytes : List UInt8) :
    Front UInt8 serde.Value FrameError :=
  match bytes with
  | b0 :: b1 :: b2 :: b3 :: rest =>
    match checkLimit limit (u32FromLe b0 b1 b2 b3) with
    | .error error => .fail error
    | .ok () =>
      if rest.length < u32FromLe b0 b1 b2 b3 then .wait
      else
        match parse serde (rest.take (u32FromLe b0 b1 b2 b3)) with
        | .error error => .fail error
        | .ok value => .item value (rest.drop (u32FromLe b0 b1 b2 b3))
  | _ => .wait

section Front

variable {limit : Limit} {serde : Serde}

theorem front_short {bytes : List UInt8} (short : bytes.length < 4) :
    front limit serde bytes = .wait := by
  rcases bytes with _ | ⟨b0, _ | ⟨b1, _ | ⟨b2, _ | ⟨b3, rest⟩⟩⟩⟩
  · rfl
  · rfl
  · rfl
  · rfl
  · simp at short
    omega

theorem front_cons (b0 b1 b2 b3 : UInt8) (rest : List UInt8) :
    front limit serde (b0 :: b1 :: b2 :: b3 :: rest) =
      match checkLimit limit (u32FromLe b0 b1 b2 b3) with
      | .error error => .fail error
      | .ok () =>
        if rest.length < u32FromLe b0 b1 b2 b3 then .wait
        else match parse serde (rest.take (u32FromLe b0 b1 b2 b3)) with
          | .error error => .fail error
          | .ok value => .item value (rest.drop (u32FromLe b0 b1 b2 b3)) :=
  rfl

theorem front_refused {len : Nat} {error : FrameError} (small : len < 2 ^ 32)
    (refused : checkLimit limit len = .error error) (rest : List UInt8) :
    front limit serde (u32Le len ++ rest) = .fail error := by
  obtain ⟨b0, b1, b2, b3, bytes, rfl⟩ := u32Le_bytes small
  simp only [bytes, List.cons_append, List.nil_append, front_cons, refused]

theorem front_accepted {len : Nat} (accepted : checkLimit limit len = .ok ())
    (rest : List UInt8) :
    front limit serde (u32Le len ++ rest) =
      if rest.length < len then .wait
      else match parse serde (rest.take len) with
        | .error error => .fail error
        | .ok value => .item value (rest.drop len) := by
  obtain ⟨b0, b1, b2, b3, bytes, rfl⟩ :=
    u32Le_bytes ((checkLimit_ok.mp accepted).2.trans_lt limit.u32)
  simp only [bytes, List.cons_append, List.nil_append, front_cons, accepted]

/-- Every input is short or begins with a length. -/
theorem front_cases (bytes : List UInt8) :
    bytes.length < 4 ∨ ∃ len rest, len < 2 ^ 32 ∧ bytes = u32Le len ++ rest := by
  rcases bytes with _ | ⟨b0, _ | ⟨b1, _ | ⟨b2, _ | ⟨b3, rest⟩⟩⟩⟩
  · exact .inl (by simp)
  · exact .inl (by simp)
  · exact .inl (by simp)
  · exact .inl (by simp)
  · exact .inr ⟨u32FromLe b0 b1 b2 b3, rest, u32FromLe_lt .., by simp⟩

theorem front_item {bytes rest : List UInt8} {value : serde.Value}
    (item : front limit serde bytes = .item value rest) :
    ∃ len payload, checkLimit limit len = .ok () ∧ payload.length = len ∧
      parse serde payload = .ok value ∧ bytes = u32Le len ++ payload ++ rest := by
  rcases front_cases bytes with short | ⟨len, body, small, rfl⟩
  · rw [front_short short] at item
    cases item
  · cases limits : checkLimit limit len with
    | error error =>
      rw [front_refused small limits] at item
      cases item
    | ok done =>
      rw [front_accepted limits] at item
      split at item
      · cases item
      · rename_i enough
        cases parsed : parse serde (body.take len) with
        | error error => simp [parsed] at item
        | ok found =>
          simp only [parsed, Front.item.injEq] at item
          obtain ⟨rfl, rfl⟩ := item
          refine ⟨len, body.take len, limits, ?_, parsed, ?_⟩
          · rw [List.length_take]
            omega
          · rw [List.append_assoc, List.take_append_drop]

theorem front_frame {len : Nat} {payload : List UInt8} {value : serde.Value}
    (accepted : checkLimit limit len = .ok ()) (length : payload.length = len)
    (parsed : parse serde payload = .ok value) (rest : List UInt8) :
    front limit serde (u32Le len ++ payload ++ rest) = .item value rest := by
  have enough : ¬ (payload ++ rest).length < len := by
    rw [List.length_append]
    omega
  rw [List.append_assoc, front_accepted accepted, if_neg enough, ← length, List.take_left,
    List.drop_left, parsed]

theorem front_fail_append {bytes : List UInt8} {error : FrameError}
    (fails : front limit serde bytes = .fail error) (more : List UInt8) :
    front limit serde (bytes ++ more) = .fail error := by
  rcases front_cases bytes with short | ⟨len, body, small, rfl⟩
  · rw [front_short short] at fails
    cases fails
  · rw [List.append_assoc]
    cases limits : checkLimit limit len with
    | error refused =>
      rw [front_refused small limits] at fails ⊢
      exact fails
    | ok done =>
      rw [front_accepted limits] at fails ⊢
      split at fails
      · cases fails
      · rename_i enough
        have longer : ¬ (body ++ more).length < len := by
          rw [List.length_append]
          omega
        rw [if_neg longer, List.take_append_of_le_length (by omega)]
        cases parsed : parse serde (body.take len) with
        | error refused => simpa [parsed] using fails
        | ok found => simp [parsed] at fails

end Front

/-- Frames as a reader of bytes. -/
def reader (limit : Limit) (serde : Serde) : Reader UInt8 serde.Value FrameError where
  front := front limit serde
  item_append := by
    intro bytes value rest item more
    obtain ⟨len, payload, accepted, length, parsed, rfl⟩ := front_item item
    rw [List.append_assoc]
    exact front_frame accepted length parsed (rest ++ more)
  fail_append := front_fail_append
  shorter := by
    intro bytes value rest item
    obtain ⟨len, payload, -, -, -, rfl⟩ := front_item item
    simp [u32Le]
    omega

namespace FrameDecoder

variable {limit : Limit} {serde : Serde}

/-- The bytes the decoder has not turned into frames, with the length it has taken off. -/
def unread (d : FrameDecoder limit) : List UInt8 := d.currentLen.elim [] u32Le ++ d.buf

theorem push_unread (d : FrameDecoder limit) (chunk : List UInt8) :
    (d.push chunk).1.unread = d.unread ++ chunk :=
  (List.append_assoc ..).symm

theorem push_error {d : FrameDecoder limit} {chunk : List UInt8} {error : FrameError}
    (fails : (d.push chunk).2 = .error error) :
    front limit serde (d.unread ++ chunk) = .fail error := by
  rw [← push_unread]
  obtain ⟨buf, currentLen, accepted⟩ := d
  cases currentLen with
  | some len =>
    simp only [push, accepted len rfl] at fails
    cases fails
  | none =>
    rcases front_cases (buf ++ chunk) with short | ⟨len, rest, small, same⟩
    · rcases split : buf ++ chunk with _ | ⟨b0, _ | ⟨b1, _ | ⟨b2, _ | ⟨b3, rest⟩⟩⟩⟩
      · simp [push, split] at fails
      · simp [push, split] at fails
      · simp [push, split] at fails
      · simp [push, split] at fails
      · simp [split] at short
        omega
    · obtain ⟨b0, b1, b2, b3, bytes, rfl⟩ := u32Le_bytes small
      have refused : checkLimit limit (u32FromLe b0 b1 b2 b3) = .error error := by
        simpa [push, same, bytes] using fails
      simpa [push, unread, same] using front_refused small refused rest

theorem takeLen_known {d : FrameDecoder limit} {len : Nat} (known : d.currentLen = some len) :
    d.takeLen = (d, .ok (some len)) := by
  obtain ⟨buf, currentLen, accepted⟩ := d
  cases known
  rfl

theorem takeLen_short {d : FrameDecoder limit} (unknown : d.currentLen = none)
    (short : d.buf.length < 4) : d.takeLen = (d, .ok none) := by
  obtain ⟨buf, currentLen, accepted⟩ := d
  cases unknown
  rcases buf with _ | ⟨b0, _ | ⟨b1, _ | ⟨b2, _ | ⟨b3, rest⟩⟩⟩⟩
  · rfl
  · rfl
  · rfl
  · rfl
  · simp at short
    omega

theorem takeLen_refused {d : FrameDecoder limit} {len : Nat} {rest : List UInt8}
    {error : FrameError} (unknown : d.currentLen = none) (begins : d.buf = u32Le len ++ rest)
    (small : len < 2 ^ 32) (refused : checkLimit limit len = .error error) :
    d.takeLen = (d, .error error) := by
  obtain ⟨buf, currentLen, accepted⟩ := d
  cases unknown
  obtain ⟨b0, b1, b2, b3, bytes, rfl⟩ := u32Le_bytes small
  obtain rfl : buf = b0 :: b1 :: b2 :: b3 :: rest := by
    simpa [bytes] using begins
  unfold takeLen
  dsimp only
  split
  · rename_i other same
    rw [refused] at same
    cases same
    rfl
  · rename_i same
    rw [refused] at same
    cases same

theorem takeLen_accepted {d : FrameDecoder limit} {len : Nat} {rest : List UInt8}
    (unknown : d.currentLen = none) (begins : d.buf = u32Le len ++ rest)
    (accepts : checkLimit limit len = .ok ()) :
    d.takeLen =
      ({ buf := rest, currentLen := some len,
         accepted := fun _ same => Option.some.inj same ▸ accepts }, .ok (some len)) := by
  obtain ⟨buf, currentLen, accepted⟩ := d
  cases unknown
  obtain ⟨b0, b1, b2, b3, bytes, rfl⟩ :=
    u32Le_bytes ((checkLimit_ok.mp accepts).2.trans_lt limit.u32)
  obtain rfl : buf = b0 :: b1 :: b2 :: b3 :: rest := by
    simpa [bytes] using begins
  unfold takeLen
  dsimp only
  split
  · rename_i other same
    rw [accepts] at same
    cases same
  · rfl

/-- What a reply of `next_frame` says about the bytes it had. -/
def Reads (serde : Serde) (d d' : FrameDecoder limit) :
    Except FrameError (Option serde.Value) → Prop
  | .ok (some value) => front limit serde d.unread = .item value d'.unread
  | .ok none => front limit serde d.unread = .wait ∧ d'.unread = d.unread
  | .error error => front limit serde d.unread = .fail error

theorem takePayload_reads (serde : Serde) {d : FrameDecoder limit} {len : Nat}
    (known : d.currentLen = some len) :
    Reads serde d (d.takePayload serde len).1 (d.takePayload serde len).2 := by
  have bytes : d.unread = u32Le len ++ d.buf := by rw [unread, known]; rfl
  have front := @front_accepted limit serde len (d.accepted len known) d.buf
  rw [← bytes] at front
  unfold takePayload
  split
  · rename_i short
    rw [if_pos short] at front
    exact ⟨front, rfl⟩
  · rename_i enough
    rw [if_neg enough] at front
    cases parsed : parse serde (d.buf.take len) with
    | error error => simpa [Reads, parsed, Except.map] using front
    | ok value => simpa [Reads, parsed, Except.map, unread, splitTo] using front

theorem nextFrame_reads (serde : Serde) (d : FrameDecoder limit) :
    Reads serde d (d.nextFrame serde).1 (d.nextFrame serde).2 := by
  cases known : d.currentLen with
  | some len =>
    rw [nextFrame, takeLen_known known]
    exact takePayload_reads serde known
  | none =>
    have bytes : d.unread = d.buf := by rw [unread, known]; rfl
    rcases front_cases d.buf with short | ⟨len, rest, small, begins⟩
    · rw [nextFrame, takeLen_short known short]
      exact ⟨bytes ▸ front_short short, rfl⟩
    · cases limits : checkLimit limit len with
      | error error =>
        rw [nextFrame, takeLen_refused known begins small limits]
        exact (congrArg _ (bytes.trans begins)).trans (front_refused small limits rest)
      | ok done =>
        rw [nextFrame, takeLen_accepted known begins limits]
        -- the same bytes, with the length taken off the buffer
        let taken : FrameDecoder limit :=
          ⟨rest, some len, fun _ same => Option.some.inj same ▸ limits⟩
        have same : taken.unread = d.unread := (bytes.trans begins).symm
        have reads : Reads serde taken _ _ := takePayload_reads serde rfl
        unfold Reads at reads ⊢
        rw [same] at reads
        exact reads

end FrameDecoder

/-- The decoder reads frames. -/
def decoder (limit : Limit) (serde : Serde) : Machine (reader limit serde) (FrameDecoder limit) where
  unread := FrameDecoder.unread
  push := FrameDecoder.push
  next := FrameDecoder.nextFrame serde
  push_ok := fun _ => FrameDecoder.push_unread _ _
  push_error := FrameDecoder.push_error
  next_item := by
    intro d value yields
    have reads := FrameDecoder.nextFrame_reads serde d
    rwa [yields] at reads
  next_wait := by
    intro d waits
    have reads := FrameDecoder.nextFrame_reads serde d
    rwa [waits] at reads
  next_error := by
    intro d error fails
    have reads := FrameDecoder.nextFrame_reads serde d
    rwa [fails] at reads

/-! ## Encoded frames -/

section Encoded

variable {limit : Limit} {serde : Serde}

theorem parse_text {text : String} {value : serde.Value} (read : serde.fromStr text = some value)
    (object : serde.isObject value = true) :
    parse serde text.toByteArray.data.toList = .ok value := by
  have bytes : text.toByteArray.data.toList.toByteArray = text.toByteArray := by
    apply ByteArray.ext
    simp
  have decoded : String.fromUTF8? text.toByteArray = some text := by
    simp only [String.fromUTF8?, dif_pos text.isValidUTF8]
    rfl
  simp [parse, bytes, decoded, read, object]

/-- An encoded object is a frame that the decoder takes off the front. -/
theorem front_encoded (roundTrips : serde.RoundTrips) {value : serde.Value} {frame : List UInt8}
    (object : serde.isObject value = true)
    (encoded : encodeFrame serde value limit.maxFrameBytes = .ok frame) (rest : List UInt8) :
    front limit serde (frame ++ rest) = .item value rest := by
  unfold encodeFrame at encoded
  cases written : serde.toString value with
  | error message => simp [written] at encoded
  | ok text =>
    simp only [written] at encoded
    split at encoded
    · cases encoded
    · rename_i fits
      cases encoded
      refine front_frame (checkLimit_ok.mpr ?_) rfl
        (parse_text (roundTrips value text object written) object) rest
      simp only [Bool.or_eq_true, List.isEmpty_iff, decide_eq_true_eq, not_or, Nat.not_lt] at fits
      exact ⟨List.length_pos_of_ne_nil fits.1, fits.2⟩

end Encoded

/-- The frames that `encode_frame` makes of some objects. -/
def Encodes (limit : Limit) (serde : Serde) : List serde.Value → List (List UInt8) → Prop :=
  List.Forall₂ fun value frame =>
    serde.isObject value = true ∧ encodeFrame serde value limit.maxFrameBytes = .ok frame

theorem all_encoded {limit : Limit} {serde : Serde} (roundTrips : serde.RoundTrips)
    {values : List serde.Value} {frames : List (List UInt8)}
    (encodes : Encodes limit serde values frames) (rest : List UInt8) :
    (reader limit serde).all (frames.flatten ++ rest) =
      (values ++ ((reader limit serde).all rest).1, ((reader limit serde).all rest).2) := by
  induction encodes with
  | nil => rfl
  | cons encoded _ inductionHypothesis =>
    rw [List.flatten_cons, List.append_assoc,
      Reader.all_of_item (front_encoded roundTrips encoded.1 encoded.2 _), inductionHypothesis]
    rfl

/-! ## Chunks -/

/-- The frames and the state or the error that calls on a new decoder give, up to the first
error. -/
def decode (limit : Limit) (serde : Serde) (calls : List (ReaderCall UInt8)) :
    List serde.Value × Except FrameError (FrameDecoder limit) :=
  (decoder limit serde).run (.new limit) calls

/-- Calls yield these frames, in order, as far as they ask.  Asked on, the decoder yields them
all; then it reports the error or, without one, keeps asking for more. -/
def Yields (limit : Limit) (serde : Serde) (calls : List (ReaderCall UInt8))
    (values : List serde.Value) (ending : Option FrameError) : Prop :=
  (decode limit serde calls).1 <+: values ∧
    ∀ n, values.length < n →
      (decode limit serde (calls ++ List.replicate n .next)).1 = values ∧
        match ending with
        | none => ∃ d, (decode limit serde (calls ++ List.replicate n .next)).2 = .ok d ∧
            (d.nextFrame serde).2 = .ok none
        | some error =>
          (decode limit serde (calls ++ List.replicate n .next)).2 = .error error

/-- What calls yield is a matter of the bytes that they push. -/
theorem yields_all (limit : Limit) (serde : Serde) (calls : List (ReaderCall UInt8)) :
    Yields limit serde calls ((reader limit serde).all (ReaderCall.pushed calls)).1
      ((reader limit serde).all (ReaderCall.pushed calls)).2 := by
  refine ⟨(decoder limit serde).run_part (.new limit) calls, fun n enough => ?_⟩
  have complete := (decoder limit serde).run_complete (.new limit) calls enough
  refine ⟨complete.1, ?_⟩
  have ends : (decoder limit serde).Ends (decode limit serde (calls ++ List.replicate n .next)).2
      ((reader limit serde).all (ReaderCall.pushed calls)).2 := complete.2
  cases result : (decode limit serde (calls ++ List.replicate n .next)).2 with
  | error error =>
    rw [result] at ends
    rw [show _ = some error from ends]
  | ok left =>
    rw [result] at ends
    obtain ⟨ended, waits⟩ : _ = none ∧ front limit serde left.unread = .wait := ends
    rw [ended]
    refine ⟨left, rfl, ?_⟩
    have reads := FrameDecoder.nextFrame_reads serde left
    rcases reply : (left.nextFrame serde).2 with error | _ | value
    · rw [reply, FrameDecoder.Reads, waits] at reads
      cases reads
    · rfl
    · rw [reply, FrameDecoder.Reads, waits] at reads
      cases reads

/-- **The decoder does not depend on chunking.** -/
theorem decoder_ignores_chunks (serde : Serde) (roundTrips : serde.RoundTrips) (limit : Limit) :
    (∀ values frames calls, Encodes limit serde values frames →
      ReaderCall.pushed calls = frames.flatten → Yields limit serde calls values none) ∧
    (∀ values frames announced rest calls, Encodes limit serde values frames →
      announced < 2 ^ 32 → announced = 0 ∨ limit.maxFrameBytes < announced →
      ReaderCall.pushed calls = frames.flatten ++ u32Le announced ++ rest →
      Yields limit serde calls values (some (if announced = 0 then .zeroLength
        else .tooLarge announced limit.maxFrameBytes))) ∧
    ∀ bytes, ∃ values ending, ∀ calls, ReaderCall.pushed calls = bytes →
      Yields limit serde calls values ending := by
  refine ⟨?_, ?_, ?_⟩
  · intro values frames calls encodes pushes
    have yields := yields_all limit serde calls
    have empty : (reader limit serde).all [] = ([], none) := Reader.all_of_wait rfl
    rw [pushes, ← List.append_nil frames.flatten, all_encoded roundTrips encodes, empty,
      List.append_nil] at yields
    exact yields
  · intro values frames announced rest calls encodes small bad pushes
    have refused : checkLimit limit announced = .error (if announced = 0 then .zeroLength
        else .tooLarge announced limit.maxFrameBytes) := by
      unfold checkLimit
      split
      · rfl
      · rw [if_pos (by omega)]
    have fails : (reader limit serde).front (u32Le announced ++ rest) = .fail _ :=
      front_refused small refused rest
    have yields := yields_all limit serde calls
    rw [pushes, List.append_assoc, all_encoded roundTrips encodes, Reader.all_of_fail fails,
      List.append_nil] at yields
    exact yields
  · intro bytes
    refine ⟨((reader limit serde).all bytes).1, ((reader limit serde).all bytes).2,
      fun calls pushes => ?_⟩
    have yields := yields_all limit serde calls
    rw [pushes] at yields
    exact yields

/-! ## An object in two frames, cut inside a length -/

namespace EmptyObject

/-- The empty object and `null`. -/
def serde : Serde where
  Value := Bool
  isObject := id
  toString value := .ok (if value then "{}" else "null")
  fromStr text := if text = "{}" then some true else if text = "null" then some false else none

def limit : Limit := ⟨1024, by decide, by decide⟩

def calls : List (ReaderCall UInt8) :=
  [.push [2, 0], .next, .push [0, 0, 123, 125, 2], .next, .push [0, 0, 0, 123, 125]]

theorem roundTrips : serde.RoundTrips := by
  intro value text object written
  have same : value = true := object
  subst same
  cases written
  rfl

end EmptyObject

open EmptyObject in
theorem decoder_ignores_chunks_split : Yields limit serde calls [true, true] none := by
  refine (decoder_ignores_chunks serde roundTrips limit).1 _
    [[2, 0, 0, 0, 123, 125], [2, 0, 0, 0, 123, 125]] _ ?_ rfl
  have encoded : encodeFrame serde true limit.maxFrameBytes = .ok [2, 0, 0, 0, 123, 125] := by
    decide +kernel
  exact .cons ⟨rfl, encoded⟩ (.cons ⟨rfl, encoded⟩ .nil)

end AgentConsole.Bridge.Frame
