import DiagnosticGateway.Doip.Message

/-! # Writing messages to a byte stream

A `Sink` accepts bytes call by call, perhaps fewer than it is offered. Writing offers what is left
until all is accepted, tries again after an interruption, and gives up at any other failure and
when nothing is accepted. Header and payload are written one after the other.
-/

namespace DiagnosticGateway.Doip

/-- A stream that accepts bytes, with a state of type `σ`. -/
structure Sink (σ : Type) where
  /-- One call: the number of the offered bytes that are accepted, or a failure. -/
  accept : List UInt8 → σ → Except IoError Nat × σ
  /-- How many interruptions may still come. -/
  interruptions : σ → Nat
  /-- An interruption uses up one of those to come. -/
  interruptions_lt : ∀ bytes s error, (accept bytes s).1 = .error error →
    error.kind = .interrupted → interruptions (accept bytes s).2 < interruptions s

namespace Sink

variable {σ : Type}

/-- Writes all bytes. The first component lists those put out. -/
def writeAll (sink : Sink σ) (bytes : List UInt8) (s : σ) :
    List UInt8 × Except Fault Unit × σ :=
  match bytes with
  | [] => ([], .ok (), s)
  | b :: rest =>
    match h : sink.accept (b :: rest) s with
    | (.ok 0, s) => ([], .error (.io ⟨.writeZero, "failed to write whole buffer"⟩), s)
    | (.ok (n + 1), s) =>
      let (out, outcome, s) := sink.writeAll (rest.drop n) s
      (b :: rest.take n ++ out, outcome, s)
    | (.error error, s') =>
      if hk : error.kind = .interrupted then
        have := sink.interruptions_lt (b :: rest) s error (by rw [h]) hk
        sink.writeAll (b :: rest) s'
      else ([], .error (.io error), s')
termination_by (bytes.length, sink.interruptions s)
decreasing_by
  · apply Prod.Lex.left
    simp only [List.length_drop, List.length_cons]
    omega
  · apply Prod.Lex.right
    simpa [h] using this

/-- Writes a message: its header, then its payload. -/
def writeMessage (sink : Sink σ) (m : Message) (s : σ) : List UInt8 × Except Fault Unit × σ :=
  match sink.writeAll m.header.toBytes s with
  | (out, .error fault, s) => (out, .error fault, s)
  | (out, .ok (), s) =>
    let (more, outcome, s) := sink.writeAll m.payload s
    (out ++ more, outcome, s)

/-- Writes messages one after the other, also after a failure. -/
def writeMessages (sink : Sink σ) : List Message → σ → List (List UInt8 × Except Fault Unit)
  | [], _ => []
  | m :: rest, s =>
    let (out, outcome, s) := sink.writeMessage m s
    (out, outcome) :: sink.writeMessages rest s

end Sink

/-- A sink that takes a bounded number of bytes, a bounded number of them in each call. -/
structure Meter where
  /-- The most that one call takes. -/
  perCall : Option Nat
  /-- What a call fails with once nothing more is taken; `none` if it then takes zero bytes. -/
  refusal : Option IoError
  /-- The refusal is final. -/
  refusal_final : ∀ error ∈ refusal, error.kind ≠ .interrupted

namespace Meter

/-- The number of bytes taken of `n` when there is room for `room` more. -/
def taken (meter : Meter) (n : Nat) (room : Option Nat) : Nat :=
  min (min n (meter.perCall.getD n)) (room.getD n)

/-- The sink whose state is the room that is left. -/
def sink (meter : Meter) : Sink (Option Nat) where
  accept bytes room :=
    match meter.taken bytes.length room, meter.refusal with
    | 0, some error => (.error error, room)
    | n, _ => (.ok n, room.map (· - n))
  interruptions _ := 0
  interruptions_lt := by
    intro bytes s error h hk
    split at h
    · rename_i e _ hr
      simp only [Except.error.injEq] at h
      exact absurd (h ▸ hk) (meter.refusal_final e (by simp [hr]))
    · simp at h

end Meter

end DiagnosticGateway.Doip
