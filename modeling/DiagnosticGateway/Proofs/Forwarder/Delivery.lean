import DiagnosticGateway.Config.Validate
import DiagnosticGateway.Proofs.Forwarder.Reactions
import DiagnosticGateway.Proofs.Tester.Answers

/-! # What a tester makes of a delivered message

A tester takes payloads of two addresses and the longest transport message. A message that is marked
as the response to a read request is one byte longer than what the ECU sent, so the longest of them
no longer fits, while all others are read as they were meant.
-/

namespace DiagnosticGateway

open Doip (Diagnostic Message Sink Source)
open IsoTp (maxMessage)

/-! ## Marked and unmarked bytes -/

/-- The bytes start as a response does, and reach the tester as they are. -/
def IsResponse (data : List UInt8) : Prop := ∃ b ∈ data.head?, 0x40 ≤ b ∧ b ≤ 0x7F

variable {data : List UInt8}

theorem wrapResponse_of_isResponse (response : IsResponse data) : wrapResponse data = data := by
  obtain ⟨b, first, bounds⟩ := response
  cases data with
  | nil => cases first
  | cons head rest =>
      cases first
      exact if_pos bounds

theorem wrapResponse_of_not_isResponse (other : ¬ IsResponse data) :
    wrapResponse data = readResponseMark :: data := by
  cases data with
  | nil => rfl
  | cons head rest => exact if_neg fun bounds => other ⟨head, rfl, bounds⟩

theorem length_wrapResponse_le (data : List UInt8) :
    (wrapResponse data).length ≤ data.length + 1 := by
  by_cases response : IsResponse data
  · rw [wrapResponse_of_isResponse response]
    exact Nat.le_succ _
  · exact Nat.le_of_eq (congrArg List.length (wrapResponse_of_not_isResponse response))

theorem length_wrapResponse_le_iff (small : data.length ≤ maxMessage) :
    (wrapResponse data).length ≤ maxMessage ↔ data.length < maxMessage ∨ IsResponse data := by
  by_cases response : IsResponse data
  · rw [wrapResponse_of_isResponse response]
    exact iff_of_true small (.inr response)
  · rw [wrapResponse_of_not_isResponse response, List.length_cons]
    exact ⟨.inl, fun fits => fits.resolve_right response⟩

/-! ## What a tester receives -/

namespace Forwarder

variable (fw : Forwarder)

theorem consistent_message (small : data.length ≤ maxMessage) : (fw.message data).Consistent := by
  have lengthLt : (fw.message data).payload.length < UInt32.size := by
    have := length_wrapResponse_le data
    rw [length_payload_message]
    simp only [maxMessage, Doip.addressBytes, UInt32.size] at *
    omega
  have canonical : Doip.PayloadType.diagnosticMessage.Canonical := by decide
  exact (Message.consistent_ofType lengthLt canonical).withVersion fw.version

/-- A tester takes a message off its stream, and accepts it if what the ECU sent and perhaps the
mark fit into a transport message. -/
theorem exists_receive_message (small : data.length ≤ maxMessage) {source : Source}
    (steady : source.Steady) (content : source.content = (fw.message data).toBytes) :
    ∃ left : Source, left.content = [] ∧ Tester.receive source =
      (if (wrapResponse data).length ≤ maxMessage then .ok (fw.message data)
        else .error (.payloadTooLarge (Tester.maxPayload + 1) Tester.maxPayload), left) := by
  have valid : (fw.message data).header.isValid := beq_self_eq_true _
  rw [← List.append_nil (fw.message data).toBytes] at content
  obtain ⟨left, read, _, leftContent⟩ := Source.exists_readMessage_toBytes Tester.maxPayload
    (fw.consistent_message small) valid steady content
  refine ⟨left, leftContent, ?_⟩
  rw [Tester.receive, read, length_payload_message, Tester.maxPayload]
  have marked := length_wrapResponse_le data
  by_cases fits : (wrapResponse data).length ≤ maxMessage
  · rw [if_neg (by omega), if_pos fits]
  · have longest : (wrapResponse data).length = maxMessage + 1 := by omega
    rw [if_pos (by omega), if_neg fits, longest]
    rfl

/-- A tester reads what a forwarder delivers as a diagnostic message from the ECU, with nothing left
behind, exactly if the marked bytes are not longer than a transport message. It refuses the message
otherwise. -/
theorem tester_reads_delivery {σ : Type} {sink : Sink σ} {s : σ} (small : data.length ≤ maxMessage)
    (written : (sink.writeMessage (fw.message data) s).2.1 = .ok ()) {source : Source}
    (steady : source.Steady)
    (content : source.content = (sink.writeMessage (fw.message data) s).1) :
    ∃ left : Source, left.content = [] ∧
      (data.length < maxMessage ∨ IsResponse data →
        Tester.receive source = (.ok (fw.message data), left) ∧
        Tester.receiveDiagnostic source =
          (.ok ⟨fw.ecu, fw.tester, wrapResponse data⟩, left)) ∧
      (¬ (data.length < maxMessage ∨ IsResponse data) →
        Tester.receive source =
          (.error (.payloadTooLarge (Tester.maxPayload + 1) Tester.maxPayload), left) ∧
        Tester.receiveDiagnostic source =
          (.error (.payloadTooLarge (Tester.maxPayload + 1) Tester.maxPayload), left)) := by
  rw [sink.writeMessage_of_ok (fw.message data) s written] at content
  obtain ⟨left, leftContent, received⟩ := fw.exists_receive_message small steady content
  refine ⟨left, leftContent, ?_, ?_⟩
  · intro fits
    rw [if_pos ((length_wrapResponse_le_iff small).mpr fits)] at received
    have answers : Tester.answer? (fw.message data) =
        some (.ok ⟨fw.ecu, fw.tester, wrapResponse data⟩) :=
      congrArg some (fw.ofPayload_message data)
    exact ⟨received, Tester.receiveDiagnostic_of_verdict received answers⟩
  · intro exceeds
    rw [if_neg fun fits => exceeds ((length_wrapResponse_le_iff small).mp fits)] at received
    exact ⟨received, Tester.receiveDiagnostic_of_verdict received rfl⟩

/-- A connection that takes five bytes a call. -/
def fiveBytesACall : Sink Unit where
  accept bytes s := (.ok (min 5 bytes.length), s)
  interruptions _ := 0
  interruptions_lt _ _ _ failed := nomatch failed

/-- Two bytes that are no response arrive marked. -/
theorem marked_bytes_arrive :
    let bytes := (fiveBytesACall.writeMessage ((ofConfig {}).message [0xF1, 0x90]) ()).1
    ∃ left : Source, left.content = [] ∧ Tester.receiveDiagnostic (.ofBytes bytes) =
      (.ok ⟨⟨0x1000⟩, ⟨0x0E00⟩, [0x62, 0xF1, 0x90]⟩, left) := by
  intro bytes
  have unfailing : fiveBytesACall.Unfailing := fun b bytes _ =>
    ⟨min 4 bytes.length, congrArg Except.ok (Nat.add_min_add_right 4 bytes.length 1)⟩
  obtain ⟨left, leftContent, read, _⟩ :=
    tester_reads_delivery (ofConfig {}) (by decide) (unfailing.writeMessage _ ())
      (Source.steady_ofBytes bytes) (Source.content_ofBytes bytes)
  exact ⟨left, leftContent, (read (.inl (by decide))).2⟩

/-- The longest message of an ECU is refused if it has to be marked. -/
theorem longest_marked_message_refused :
    let data : List UInt8 := List.replicate 4095 0
    ({} : Config).validate = .ok () ∧
      (Tester.receive (.ofBytes ((ofConfig {}).message data).toBytes)).1 =
        .error (.payloadTooLarge 4100 4099) := by
  intro data
  have length : data.length = maxMessage := List.length_replicate
  have other : ¬ IsResponse data := by
    rintro ⟨b, first, bounds⟩
    cases first
    exact absurd bounds.1 (by decide)
  have exceeds : ¬ (wrapResponse data).length ≤ maxMessage := by
    rw [wrapResponse_of_not_isResponse other, List.length_cons, length]
    exact Nat.not_succ_le_self maxMessage
  obtain ⟨left, _, received⟩ := (ofConfig {}).exists_receive_message (Nat.le_of_eq length)
    (Source.steady_ofBytes _) (Source.content_ofBytes _)
  refine ⟨rfl, ?_⟩
  rw [received, if_neg exceeds]
  rfl

end Forwarder

end DiagnosticGateway
