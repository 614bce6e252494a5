import DiagnosticGateway.Doip.Message

/-! # Reading messages from a byte stream

A `Source` is what a stream still has to deliver: pieces of data as they arrive, and failures in
between. Reading fills a fixed number of bytes at a time, however the pieces are cut, and tries
again after an interruption. Every other failure ends the reading in progress, and the bytes it
had taken are gone.

A message that is too large, or whose header is malformed, is taken off the stream as a whole, so
the next reading starts at the next message.
-/

namespace DiagnosticGateway.Doip

/-- One thing that a stream delivers. -/
inductive Arrival where
  /-- A piece of data. An empty piece means that the stream gives nothing, as at its end. -/
  | data (bytes : List UInt8)
  /-- A failed read. -/
  | failure (error : IoError)
deriving Repr, DecidableEq

/-- What a stream still delivers; after the last arrival it is at its end. -/
abbrev Source := List Arrival

/-- How an attempt to read a number of bytes ended. -/
inductive Fill where
  | full (bytes : List UInt8)
  /-- The stream ended after these bytes. -/
  | short (bytes : List UInt8)
  | failed (error : IoError)
deriving Repr, DecidableEq

/-- The outcome when `piece` had arrived before. -/
def Fill.after (piece : List UInt8) : Fill → Fill
  | .full bytes => .full (piece ++ bytes)
  | .short bytes => .short (piece ++ bytes)
  | .failed error => .failed error

namespace Source

def size : Source → Nat
  | [] => 0
  | .data bytes :: rest => bytes.length + size rest
  | .failure _ :: rest => size rest

/-- The source that delivers the bytes in one piece. -/
def ofBytes : List UInt8 → Source
  | [] => []
  | bytes => [.data bytes]

/-- Reads `n` bytes, over as many pieces as they are spread. -/
def fill : Nat → Source → Fill × Source
  | 0, source => (.full [], source)
  | _ + 1, [] => (.short [], [])
  | n + 1, .failure error :: rest =>
    if error.kind = .interrupted then fill (n + 1) rest else (.failed error, rest)
  | _ + 1, .data [] :: rest => (.short [], rest)
  | n + 1, .data (b :: bytes) :: rest =>
    if n < bytes.length then
      (.full (b :: bytes.take n), .data (bytes.drop n) :: rest)
    else
      let (outcome, left) := fill (n - bytes.length) rest
      (outcome.after (b :: bytes), left)

/-- Filling never adds to a source, and a full read takes exactly the bytes it returns. -/
theorem size_fill (n : Nat) (source : Source) :
    (source.fill n).2.size ≤ source.size ∧
      ∀ bytes, (source.fill n).1 = .full bytes → (source.fill n).2.size + n = source.size := by
  fun_induction fill n source with
  | case1 source => simp
  | case2 n => simp
  | case3 n error rest hk ih => simpa [size] using ih
  | case4 n error rest hk => simp [size]
  | case5 n rest => simp [size]
  | case6 n b bytes rest hn =>
    simp only [size, List.length_drop, List.length_cons]
    exact ⟨by omega, fun _ _ => by omega⟩
  | case7 n b bytes rest hn outcome left hfill ih =>
    simp only [hfill] at ih
    simp only [size, List.length_cons]
    refine ⟨by omega, fun all h => ?_⟩
    cases outcome with
    | full tail =>
      have := ih.2 tail rfl
      omega
    | short _ => simp [Fill.after] at h
    | failed _ => simp [Fill.after] at h

/-- Reads a header. At the end of the stream the connection counts as closed if no byte of the
header has arrived, and as broken otherwise. -/
def readHeader (source : Source) : Except Fault Header × Source :=
  match source.fill headerSize with
  | (.full bytes, left) => (Header.ofBytes bytes, left)
  | (.short [], left) => (.error .connectionClosed, left)
  | (.short _, left) =>
    (.error (.io ⟨.unexpectedEof, "stream closed inside DoIP header"⟩), left)
  | (.failed error, left) => (.error (.io error), left)

/-- Takes `n` payload bytes off the stream and drops them. -/
def skip (n : Nat) (source : Source) : Except Fault Unit × Source :=
  match source.fill n with
  | (.full _, left) => (.ok (), left)
  | (.short _, left) =>
    (.error (.io ⟨.unexpectedEof, "stream closed inside DoIP payload"⟩), left)
  | (.failed error, left) => (.error (.io error), left)

def readPayload (n : Nat) (source : Source) : Except Fault (List UInt8) × Source :=
  match source.fill n with
  | (.full bytes, left) => (.ok bytes, left)
  | (.short _, left) => (.error (.io ⟨.unexpectedEof, "failed to fill whole buffer"⟩), left)
  | (.failed error, left) => (.error (.io error), left)

/-- Reads a message with a payload of at most `limit` bytes. -/
def readMessage (limit : Nat) (source : Source) : Except Fault Message × Source :=
  match source.readHeader with
  | (.error fault, left) => (.error fault, left)
  | (.ok header, left) =>
    let length := header.length.toNat
    if limit < length then
      match left.skip length with
      | (.error fault, left) => (.error fault, left)
      | (.ok (), left) => (.error (.payloadTooLarge length limit), left)
    else
      match left.readPayload length with
      | (.error fault, left) => (.error fault, left)
      | (.ok payload, left) => (header.validate.map fun () => ⟨header, payload⟩, left)

theorem size_skip_le (n : Nat) (source : Source) : (source.skip n).2.size ≤ source.size := by
  have h := (size_fill n source).1
  unfold skip
  split <;> simp_all

theorem size_readPayload_le (n : Nat) (source : Source) :
    (source.readPayload n).2.size ≤ source.size := by
  have h := (size_fill n source).1
  unfold readPayload
  split <;> simp_all

/-- Reading a header takes bytes off the stream unless it finds the stream at its end or broken. -/
theorem size_readHeader_lt (source : Source)
    (h : ∀ fault, source.readHeader.1 = .error fault → fault.isFraming = true) :
    source.readHeader.2.size < source.size := by
  have hfill := size_fill headerSize source
  rcases he : source.fill headerSize with ⟨outcome, left⟩
  rw [he] at hfill
  simp only [readHeader, he] at h ⊢
  cases outcome with
  | full bytes =>
    have := hfill.2 bytes rfl
    simp only [headerSize] at this ⊢
    omega
  | short bytes =>
    cases bytes with
    | nil => simpa [Fault.isFraming] using h _ rfl
    | cons => simpa [Fault.isFraming] using h _ rfl
  | failed error => simpa [Fault.isFraming] using h _ rfl

/-- A message that was read, or dropped for its framing, is taken off the stream. -/
theorem size_readMessage_lt (limit : Nat) (source : Source)
    (h : ∀ fault, (source.readMessage limit).1 = .error fault → fault.isFraming = true) :
    (source.readMessage limit).2.size < source.size := by
  have hheader := size_readHeader_lt source
  rcases he : source.readHeader with ⟨outcome, left⟩
  rw [he] at hheader
  simp only [readMessage, he] at h ⊢
  cases outcome with
  | error fault =>
    simp only at h
    exact hheader fun f hf => h f (by cases hf; rfl)
  | ok header =>
    have hleft : left.size < source.size := hheader (by simp)
    have hskip := size_skip_le header.length.toNat left
    have hread := size_readPayload_le header.length.toNat left
    simp only
    split
    · rcases hs : left.skip header.length.toNat with ⟨_ | _, rest⟩ <;>
        simp only [hs] at hskip ⊢ <;> omega
    · rcases hr : left.readPayload header.length.toNat with ⟨_ | _, rest⟩ <;>
        simp only [hr] at hread ⊢ <;> omega

/-- Whether a fault says that the stream has no more to give. -/
def isEnd : Fault → Bool
  | .connectionClosed => true
  | .io error => error.kind = .unexpectedEof
  | _ => false

/-- The outcomes of reading again and again, each with the number of bytes left after it. The
last one is the first that says the stream is at its end, or the one numbered `count`. -/
def readings {α : Type} (read : Source → Except Fault α × Source) :
    Nat → Source → List (Except Fault α × Nat)
  | 0, _ => []
  | count + 1, source =>
    match read source with
    | (.ok value, left) => (.ok value, left.size) :: readings read count left
    | (.error fault, left) =>
      (.error fault, left.size) :: if isEnd fault then [] else readings read count left

end Source

end DiagnosticGateway.Doip
