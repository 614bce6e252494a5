import DiagnosticGateway.Doip.Source

/-! # Reads that fail

A read of the connection that fails ends the reading of a message with just that failure, unless it
was only interrupted. Apart from that, reading fails because the stream is at its end, or because it
drops a message that it took off the stream.
-/

namespace DiagnosticGateway

/-- A fault of content never says that the peer is gone. -/
theorem Fault.isDisconnect_of_isFraming {fault : Fault} (framing : fault.isFraming = true) :
    fault.isDisconnect = false := by
  cases fault <;> first | rfl | cases framing

/-- A read that met a fault of content is not to be tried again. -/
theorem Fault.isRecoverable_of_isFraming {fault : Fault} (framing : fault.isFraming = true) :
    fault.isRecoverable = false := by
  cases fault <;> first | rfl | cases framing

theorem Fault.isRecoverable_of_isDisconnect {fault : Fault} (gone : fault.isDisconnect = true) :
    fault.isRecoverable = false := by
  cases fault with
  | io error =>
      simp only [isDisconnect] at gone
      split at gone <;> rename_i kind
      case h_5 => cases gone
      all_goals simp only [isRecoverable, kind]
  | _ => rfl

namespace Doip

/-- The failure with which an attempt to read a number of bytes ended. -/
def Fill.failure? : Fill → Option IoError
  | .failed error => some error
  | .full _ | .short _ => none

theorem Fill.failure?_after (piece : List UInt8) (outcome : Fill) :
    (outcome.after piece).failure? = outcome.failure? := by
  cases outcome <;> rfl

theorem Header.isFraming_of_ofBytes {bytes fault} (refused : ofBytes bytes = .error fault) :
    fault.isFraming = true := by
  unfold ofBytes at refused
  split at refused <;> cases refused
  rfl

theorem Header.isFraming_of_validate {header : Header} {fault}
    (refused : header.validate = .error fault) : fault.isFraming = true := by
  unfold validate at refused
  split at refused <;> cases refused
  rfl

namespace Source

/-- The failures that a stream still delivers, other than interruptions. -/
def breaks : Source → List IoError
  | [] => []
  | .data _ :: rest => breaks rest
  | .failure error :: rest =>
    if error.kind = .interrupted then breaks rest else error :: breaks rest

theorem isDisconnect_of_isEnd {fault : Fault} (ended : isEnd fault = true) :
    fault.isDisconnect = true := by
  cases fault with
  | connectionClosed => rfl
  | io error =>
      have eof : error.kind = .unexpectedEof := of_decide_eq_true ended
      simp only [Fault.isDisconnect, eof]
  | _ => cases ended

/-- An attempt to read bytes meets no failure but the one with which it ends. -/
theorem breaks_fill (n : Nat) (source : Source) :
    source.breaks = (source.fill n).1.failure?.toList ++ (source.fill n).2.breaks := by
  fun_induction fill n source with
  | case1 source => rfl
  | case2 n => rfl
  | case3 n error rest interrupted ih => rw [breaks, if_pos interrupted, ih]
  | case4 n error rest broken => rw [breaks, if_neg broken]; rfl
  | case5 n rest => rfl
  | case6 n b bytes rest within => rfl
  | case7 n b bytes rest beyond outcome left filled ih =>
      rw [filled] at ih
      rw [Fill.failure?_after]
      exact ih

/-- How the reading of a message ends, and which failures it has met by then. -/
inductive Reading (source : Source) : Except Fault Message → Source → Prop where
  | message {m left} : source.breaks = left.breaks → Reading source (.ok m) left
  /-- A message is taken off the stream and dropped. -/
  | dropped {fault left} :
    fault.isFraming = true → source.breaks = left.breaks → Reading source (.error fault) left
  /-- The stream is at its end, be it between two messages or within one. -/
  | ended {fault left} :
    isEnd fault = true → source.breaks = left.breaks → Reading source (.error fault) left
  /-- A read of the connection fails. -/
  | broken {error left} :
    source.breaks = error :: left.breaks → Reading source (.error (.io error)) left

theorem breaks_of_fill {source left : Source} {n outcome}
    (filled : source.fill n = (outcome, left)) :
    source.breaks = outcome.failure?.toList ++ left.breaks := by
  have met := breaks_fill n source
  rwa [filled] at met

/-- What follows an uneventful start decides how the reading ends. -/
theorem Reading.of_breaks {source next left : Source} {result} (same : source.breaks = next.breaks)
    (reading : Reading next result left) : Reading source result left := by
  cases reading with
  | message met => exact .message (same.trans met)
  | dropped framing met => exact .dropped framing (same.trans met)
  | ended atEnd met => exact .ended atEnd (same.trans met)
  | broken met => exact .broken (same.trans met)

theorem reading_readMessage (limit : Nat) (source : Source) :
    Reading source (source.readMessage limit).1 (source.readMessage limit).2 := by
  rcases filled : source.fill headerSize with ⟨bytes | bytes | error, next⟩
  all_goals have begun := breaks_of_fill filled
  · simp only [readMessage, readHeader, filled]
    cases spelled : Header.ofBytes bytes with
    | error fault => exact .dropped (Header.isFraming_of_ofBytes spelled) begun
    | ok header =>
        refine .of_breaks begun ?_
        rcases taken : next.fill header.length.toNat with ⟨payload | part | error, left⟩
        all_goals
          have met := breaks_of_fill taken
          simp only [skip, readPayload, taken]
          split
        · exact .dropped rfl met
        · cases valid : header.validate with
          | error fault => exact .dropped (Header.isFraming_of_validate valid) met
          | ok => exact .message met
        · exact .ended rfl met
        · exact .ended rfl met
        · exact .broken met
        · exact .broken met
  · simp only [readMessage, readHeader, filled]
    cases bytes with
    | nil | cons => exact .ended rfl begun
  · simp only [readMessage, readHeader, filled]
    exact .broken begun

end Source

end Doip

end DiagnosticGateway
