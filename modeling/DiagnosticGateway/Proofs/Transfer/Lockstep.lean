import DiagnosticGateway.Proofs.IsoTp.RoundTrip
import DiagnosticGateway.Proofs.Transfer.System

/-! # Sender and receiver in lockstep

The receiver counts a block by the frames that it gets and the sender by the frames that it sends,
so they can only agree once the frames on the bus are taken into account. The invariant is about the
receiver as it will be when it has taken all of them. That receiver lacks what the sender has not
sent yet, and it has one answer more than the sender has clearances: exactly one while the sender
waits, and none while it sends a block. A step of the receiver or of the forwarder only brings
about what was already counted, so the invariant moves on with the steps of the sender alone.
-/

namespace DiagnosticGateway

open Bus (Frame)
open IsoTp

namespace IsoTp.Listener

variable {receiver : Receiver} {listener : Listener} {frame : Frame} {data : List UInt8} {i : Nat}

/-- What becomes of a receiver when it takes these frames, and all its answers. -/
def drain (receiver : Receiver) (listener : Listener) : List Frame → Listener × List Frame
  | [] => (listener, [])
  | frame :: frames =>
    let heard := listener.hear receiver frame
    let rest := heard.1.drain receiver frames
    (rest.1, heard.2 ++ rest.2)

theorem drain_concat (receiver : Receiver) (frame : Frame) (frames : List Frame) :
    ∀ listener : Listener, listener.drain receiver (frames ++ [frame]) =
      (((listener.drain receiver frames).1.hear receiver frame).1,
        (listener.drain receiver frames).2 ++
          ((listener.drain receiver frames).1.hear receiver frame).2) := by
  induction frames with
  | nil =>
      intro listener
      simp only [List.nil_append, drain, List.append_nil]
  | cons head frames ih =>
      intro listener
      simp only [List.cons_append, drain, ih, List.append_assoc]

theorem faults_hear_eq_nil (none : (listener.hear receiver frame).1.faults = []) :
    listener.faults = [] := by
  unfold hear at none
  split at none
  · exact (List.append_eq_nil_iff.mp none).1
  · exact none
  · exact none

theorem faults_drain_eq_nil (frames : List Frame) :
    ∀ {listener : Listener}, (listener.drain receiver frames).1.faults = [] →
      listener.faults = [] := by
  induction frames with
  | nil => intro listener none; exact none
  | cons frame frames ih => intro listener none; exact faults_hear_eq_nil (ih none)

/-! ## The frames of one message -/

theorem hear_first {head reply} (full : head.length = firstData) (large : singleMax < data.length)
    (small : data.length ≤ maxMessage) (field : frame.data = lengthBytes data.length ++ head)
    (built : receiver.flowControl.toFrame receiver.id receiver.padding = .ok reply) :
    fresh.hear receiver frame = (⟨some ⟨data.length, head, 1, 0⟩, [], []⟩, [reply]) := by
  have taken : receiver.take none frame = .ok ⟨.partly ⟨data.length, head, 1, 0⟩, some reply⟩ :=
    (Receiver.start_first full large small field).trans (Receiver.paced_eq built _)
  simp only [fresh, hear, taken, Option.toList_some]

theorem hear_last {state : Reassembly} {rest filler} (lacks : state.Lacks data i rest)
    (field : frame.data = sequenceByte i :: (rest ++ filler)) :
    hear receiver ⟨some state, [], []⟩ frame = (⟨none, [data], []⟩, []) := by
  have taken : receiver.take (some state) frame = .ok ⟨.complete data, none⟩ :=
    Receiver.extend_last lacks field
  simp only [hear, taken, List.nil_append, Option.toList_none]

theorem hear_more {state next : Reassembly} {chunk rest reply}
    (lacks : state.Lacks data i (chunk ++ rest)) (more : rest ≠ [])
    (field : frame.data = sequenceByte i :: chunk)
    (counted : receiver.count (state.append chunk) = .ok ⟨.partly next, reply⟩) :
    hear receiver ⟨some state, [], []⟩ frame = (⟨some next, [], []⟩, reply.toList) := by
  have taken : receiver.take (some state) frame = .ok ⟨.partly next, reply⟩ :=
    (Receiver.extend_more lacks more field).trans counted
  simp only [hear, taken]

end IsoTp.Listener

namespace Transfer

variable {setup : Setup} {phase : Phase} {listener : Listener} {n : Nat}

/-! ## Agreement -/

/-- The room that the sender has left in a block of which the receiver got some frames. -/
inductive Room (blockSize inBlock : UInt8) : Option Nat → Prop where
  | unlimited : blockSize = 0 → Room blockSize inBlock none
  | limited :
    inBlock < blockSize → Room blockSize inBlock (some (blockSize.toNat - inBlock.toNat))

/-- How a sender in some phase and a receiver that has got all its frames stand to each other when
a number of clearances is still to reach the sender. -/
inductive Agreement (setup : Setup) : Phase → Listener → Nat → Prop where
  | awaiting {p i state} :
    p.At i → state.Lacks setup.data i p.rest → state.inBlock = 0 →
    Agreement setup (.awaiting p) ⟨some state, [], []⟩ 1
  | sending {p room i state} :
    p.At i → state.Lacks setup.data i p.rest → Room setup.blockSize state.inBlock room →
    Agreement setup (.sending p room) ⟨some state, [], []⟩ 0
  | finished : Agreement setup (.finished (.ok ())) ⟨none, [setup.data], []⟩ 0

/-- The frame with which the receiver answers. -/
def Setup.Answer (setup : Setup) (frame : Frame) : Prop :=
  setup.receiver.flowControl.toFrame setup.receiver.id setup.receiver.padding = .ok frame

theorem Setup.exists_answer (setup : Setup) : ∃ frame, setup.Answer frame :=
  setup.receiver.flowControl.exists_toFrame setup.receiver.padding setup.receiver_id_le

/-- A clearance that reaches the sender opens a new block on both sides. -/
theorem Agreement.cleared {p} (agreed : Agreement setup (.awaiting p) listener n) :
    Agreement setup (.cleared p setup.receiver.flowControl) listener 0 := by
  cases agreed with
  | @awaiting _ i state here lacks start =>
      have block : Phase.cleared p setup.receiver.flowControl = .sending p
          (if setup.blockSize = 0 then none else some setup.blockSize.toNat) := by
        rw [setup.advertises]
        rfl
      rw [block]
      refine .sending here lacks ?_
      split
      · rename_i unlimited
        exact .unlimited unlimited
      · rename_i limited
        rw [start]
        exact .limited (UInt8.pos_iff_ne_zero.mpr limited)

/-- Both sides count a frame that does not end the message, and they end a block with the same
frame: the sender needs clearance exactly if the receiver answers. -/
theorem Agreement.counted {p : Progress} {room} {state : Reassembly} {i answer}
    (built : setup.Answer answer) (here : p.At i) (lacks : state.Lacks setup.data i p.rest)
    (agreed : Room setup.blockSize state.inBlock room) :
    ∃ next reply, setup.receiver.count state = .ok ⟨.partly next, reply⟩ ∧
      (∀ frame ∈ reply, setup.Answer frame) ∧
      Agreement setup (.counted p room) ⟨some next, [], []⟩ reply.toList.length := by
  have size : setup.receiver.flowControl.blockSize = setup.blockSize := by
    rw [setup.advertises]
    rfl
  unfold Receiver.count
  rw [size]
  cases agreed with
  | unlimited unlimited =>
      rw [if_pos unlimited]
      exact ⟨_, _, rfl, nofun, .sending here lacks (.unlimited unlimited)⟩
  | limited before =>
      rw [UInt8.lt_iff_toNat_lt] at before
      have limited : setup.blockSize ≠ 0 := by
        intro none
        rw [none] at before
        exact Nat.not_lt_zero _ before
      have next := toNat_succ_of_lt before
      rw [if_neg limited]
      split
      · rename_i full
        rw [UInt8.le_iff_toNat_le, next] at full
        have used : setup.blockSize.toNat - state.inBlock.toNat ≤ 1 := by omega
        rw [Receiver.paced_eq built, Phase.counted, if_pos used]
        refine ⟨_, _, rfl, ?_, .awaiting here ⟨lacks.total, lacks.received, lacks.expected⟩ rfl⟩
        intro frame this
        cases this
        exact built
      · rename_i room
        rw [UInt8.le_iff_toNat_le, next] at room
        have left : ¬ setup.blockSize.toNat - state.inBlock.toNat ≤ 1 := by omega
        have one_less : setup.blockSize.toNat - state.inBlock.toNat - 1 =
            setup.blockSize.toNat - (state.inBlock + 1).toNat := by omega
        rw [Phase.counted, if_neg left, one_less]
        refine ⟨_, _, rfl, nofun, .sending here ?_ (.limited ?_)⟩
        · exact ⟨lacks.total, lacks.received, lacks.expected⟩
        · rw [UInt8.lt_iff_toNat_lt, next]
          omega

/-- A frame of the sender keeps the agreement, once the receiver has got it. -/
theorem Agreement.wrote {p : Progress} {room frame}
    (agreed : Agreement setup (.sending p room) listener n)
    (built : setup.sender.nextFrame p = .ok frame) :
    (∀ answer ∈ (listener.hear setup.receiver frame).2, setup.Answer answer) ∧
      Agreement setup (.wrote p room) (listener.hear setup.receiver frame).1
        (listener.hear setup.receiver frame).2.length := by
  obtain ⟨answer, answers⟩ := setup.exists_answer
  cases agreed with
  | @sending _ _ i state here lacks block =>
      by_cases empty : p.next.rest = []
      · obtain ⟨filler, _, field⟩ := Sender.nextFrame_last here built empty
        rw [Listener.hear_last lacks field, Phase.wrote_last empty]
        exact ⟨nofun, .finished⟩
      · obtain ⟨chunk, _, split, field⟩ := Sender.nextFrame_more here built empty
        rw [split] at lacks
        obtain ⟨next, reply, counted, replies, agreed⟩ :=
          Agreement.counted answers (here.next empty) lacks.append block
        rw [Listener.hear_more lacks empty field counted, Phase.wrote_more empty]
        exact ⟨fun frame this => replies frame (Option.mem_toList.mp this), agreed⟩

/-- The first frame starts the agreement. -/
theorem Agreement.opened {frame}
    (built : Pci.firstFrame setup.sender.id setup.data.length setup.data = .ok frame) :
    (∀ answer ∈ (Listener.fresh.hear setup.receiver frame).2, setup.Answer answer) ∧
      Agreement setup (.opened setup.data) (Listener.fresh.hear setup.receiver frame).1
        (Listener.fresh.hear setup.receiver frame).2.length := by
  obtain ⟨answer, answers⟩ := setup.exists_answer
  obtain ⟨_, _, enough, _, field⟩ := Pci.firstFrame_eq_ok_iff.mp built
  have full : (setup.data.take firstData).length = firstData := by
    rw [List.length_take]
    omega
  rw [Listener.hear_first full setup.large setup.small field answers]
  refine ⟨?_, .awaiting (.opened setup.large) ⟨rfl, ?_, rfl⟩ rfl⟩
  · intro frame this
    rwa [List.mem_singleton.mp this]
  · exact List.take_append_drop firstData setup.data

/-! ## The invariant -/

/-- A number of clearances is in the relay, on the way to it, or to be answered. -/
structure Clearances (setup : Setup) (n : Nat) (held : List FlowControl) (coming : List Frame) :
    Prop where
  relayed : ∀ fc ∈ held, fc = setup.receiver.flowControl
  answers : ∀ frame ∈ coming, setup.Answer frame
  count : held.length + coming.length = n

/-- What holds in every state. -/
inductive Invariant (setup : Setup) : State → Prop where
  | clearing {pending relay} :
    relay.closed = false → 1 ≤ relay.capacity →
    Invariant setup ⟨.clearing, .fresh, pending, ⟨[], [], relay⟩⟩
  | opening {pending relay} :
    relay.closed = false → 1 ≤ relay.capacity → relay.frames = [] →
    Invariant setup ⟨.opening, .fresh, pending, ⟨[], [], relay⟩⟩
  | underway {phase listener pending forth back relay n} :
    relay.closed = false → 1 ≤ relay.capacity →
    Agreement setup phase (listener.drain setup.receiver forth).1 n →
    Clearances setup n relay.frames (back ++ (listener.drain setup.receiver forth).2) →
    Invariant setup ⟨.underway phase, listener, pending, ⟨forth, back, relay⟩⟩

variable {s t : State}

/-- At most one clearance is ever underway. -/
theorem Agreement.le_one (agreed : Agreement setup phase listener n) : n ≤ 1 := by
  cases agreed <;> omega

theorem Agreement.of_awaiting {p} (agreed : Agreement setup (.awaiting p) listener n) : n = 1 := by
  cases agreed
  rfl

theorem Agreement.of_sending {p room} (agreed : Agreement setup (.sending p room) listener n) :
    n = 0 ∧ ∃ i, p.At i := by
  cases agreed with
  | sending here => exact ⟨rfl, _, here⟩

theorem Agreement.of_finished {outcome} (agreed : Agreement setup (.finished outcome) listener n) :
    outcome = .ok () ∧ listener = ⟨none, [setup.data], []⟩ ∧ n = 0 := by
  cases agreed
  exact ⟨rfl, rfl, rfl⟩

theorem Agreement.faults (agreed : Agreement setup phase listener n) : listener.faults = [] := by
  cases agreed <;> rfl

/-- Flow control in a relay that is open and not full comes after what is there. -/
theorem push_of_room {relay : Relay} (isOpen : relay.closed = false)
    (room : relay.frames.length < relay.capacity) (fc : FlowControl) :
    relay.push fc = (true, { relay with frames := relay.frames ++ [fc] }) := by
  rw [Relay.push, isOpen, if_neg (by decide), if_neg (by omega)]

/-- An open relay gives its oldest flow control. -/
theorem wait_of_cons {relay : Relay} {fc rest} (isOpen : relay.closed = false)
    (oldest : relay.frames = fc :: rest) (timeout : Span) :
    relay.wait timeout = (.ok fc, { relay with frames := rest }) := by
  obtain ⟨capacity, frames, closed⟩ := relay
  cases isOpen
  cases oldest
  rfl

/-- A forwarder only hands an answer on. -/
theorem step_answer {frame} (answer : setup.Answer frame) (pending : Option Reassembly)
    (traffic : Traffic) :
    setup.forwarder.step Traffic.wiring pending (.ok (.frame frame)) traffic =
      (.ok pending,
        { traffic with relay := (traffic.relay.push setup.receiver.flowControl).2 }) := by
  obtain ⟨id, field⟩ := FlowControl.toFrame_eq_ok_iff.mp answer
  have canonical : setup.receiver.flowControl.status.Canonical := by
    rw [setup.advertises]
    exact ⟨0, rfl⟩
  have kind : FrameKind.ofData frame.data = .flowControl := by
    rw [field]
    exact FrameKind.ofData_flowControl _ _
  have parsed : FlowControl.ofData frame.data = .ok setup.receiver.flowControl := by
    rw [field]
    exact FlowControl.ofData_toBytes canonical _
  have listens : ¬ frame.id ≠ setup.forwarder.responseId := by
    rw [id, setup.response_id]
    exact fun differ => differ rfl
  simp only [Forwarder.step, Forwarder.react, if_neg listens, if_pos kind, parsed]
  rfl

/-! ## Steps -/

theorem move_opening {frame} (traffic : Traffic)
    (built : Pci.firstFrame setup.sender.id setup.data.length setup.data = .ok frame) :
    setup.sender.move Traffic.link setup.data .opening traffic =
      (.underway (.opened setup.data), { traffic with forth := traffic.forth ++ [frame] }) := by
  simp only [Sender.move, Sender.put, built, Traffic.link]

theorem move_awaiting {p fc rest} {traffic : Traffic} (isOpen : traffic.relay.closed = false)
    (oldest : traffic.relay.frames = fc :: rest) :
    setup.sender.move Traffic.link setup.data (.underway (.awaiting p)) traffic =
      (.underway (.cleared p fc),
        { traffic with relay := { traffic.relay with frames := rest } }) := by
  simp only [Sender.move, Sender.advance, Traffic.link, wait_of_cons isOpen oldest]

theorem move_sending {p : Progress} {room frame} (traffic : Traffic) (more : p.rest ≠ [])
    (built : setup.sender.nextFrame p = .ok frame) :
    setup.sender.move Traffic.link setup.data (.underway (.sending p room)) traffic =
      (.underway (.wrote p room), { traffic with forth := traffic.forth ++ [frame] }) := by
  simp only [Sender.move, Sender.advance, if_neg more, Sender.put, built, Traffic.link]

theorem Invariant.opened {pending traffic}
    (holds : Invariant setup ⟨.opening, listener, pending, traffic⟩) :
    Invariant setup ⟨(setup.sender.move Traffic.link setup.data .opening traffic).1, listener,
      pending, (setup.sender.move Traffic.link setup.data .opening traffic).2⟩ := by
  cases holds with
  | opening isOpen capacity empty =>
      have enough : firstData ≤ setup.data.length := by
        have large := setup.large
        simp only [singleMax] at large
        simp only [firstData]
        omega
      obtain ⟨frame, built⟩ :=
        Pci.exists_firstFrame setup.sender_id_le setup.small setup.large enough
      obtain ⟨answers, agreed⟩ := Agreement.opened built
      have drained : Listener.fresh.drain setup.receiver [frame] =
          Listener.fresh.hear setup.receiver frame := by
        simp only [Listener.drain, List.append_nil]
      rw [← drained] at answers agreed
      rw [move_opening _ built]
      refine .underway isOpen capacity agreed ⟨?_, answers, ?_⟩
      · intro fc this
        rw [empty] at this
        exact absurd this List.not_mem_nil
      · rw [empty]
        exact Nat.zero_add _

theorem Invariant.cleared {p pending} {traffic : Traffic}
    (holds : Invariant setup ⟨.underway (.awaiting p), listener, pending, traffic⟩)
    (ready : traffic.relay.frames ≠ []) :
    Invariant setup
      ⟨(setup.sender.move Traffic.link setup.data (.underway (.awaiting p)) traffic).1, listener,
        pending,
        (setup.sender.move Traffic.link setup.data (.underway (.awaiting p)) traffic).2⟩ := by
  cases holds with
  | @underway _ _ _ forth back relay n isOpen capacity agreed clearances =>
      have one := agreed.of_awaiting
      have ready : relay.frames ≠ [] := ready
      obtain ⟨fc, rest, oldest⟩ := List.exists_cons_of_ne_nil ready
      have count := clearances.count
      rw [oldest, List.length_cons] at count
      have none :
          rest.length + (back ++ (listener.drain setup.receiver forth).2).length = 0 := by
        omega
      have answered : fc = setup.receiver.flowControl :=
        clearances.relayed fc (by simp only [oldest, List.mem_cons_self])
      rw [move_awaiting isOpen oldest, answered]
      refine .underway isOpen capacity agreed.cleared ⟨?_, clearances.answers, none⟩
      intro fc this
      exact clearances.relayed fc (by simp only [oldest, List.mem_cons_of_mem _ this])

theorem Invariant.wrote {p room pending traffic}
    (holds : Invariant setup ⟨.underway (.sending p room), listener, pending, traffic⟩) :
    Invariant setup
      ⟨(setup.sender.move Traffic.link setup.data (.underway (.sending p room)) traffic).1,
        listener, pending,
        (setup.sender.move Traffic.link setup.data (.underway (.sending p room)) traffic).2⟩ := by
  cases holds with
  | @underway _ _ _ forth back relay n isOpen capacity agreed clearances =>
      obtain ⟨none, i, here⟩ := agreed.of_sending
      obtain ⟨frame, built⟩ := Sender.exists_nextFrame here setup.sender_id_le
      obtain ⟨answers, agreed⟩ := agreed.wrote built
      have count := clearances.count
      have drained := Listener.drain_concat setup.receiver frame forth listener
      rw [move_sending _ here.more built]
      refine .underway isOpen capacity (by rw [drained]; exact agreed) ?_
      rw [drained, ← List.append_assoc]
      refine ⟨clearances.relayed, ?_, ?_⟩
      · intro answer this
        rcases List.mem_append.mp this with before | new
        · exact clearances.answers answer before
        · exact answers answer new
      · rw [List.length_append, ← Nat.add_assoc, count, none, Nat.zero_add]

theorem Invariant.sender {stage pending traffic}
    (holds : Invariant setup ⟨stage, listener, pending, traffic⟩)
    (ready : stage.Ready traffic.relay) :
    Invariant setup ⟨(setup.sender.move Traffic.link setup.data stage traffic).1, listener, pending,
      (setup.sender.move Traffic.link setup.data stage traffic).2⟩ := by
  cases stage with
  | clearing =>
      cases holds with
      | clearing isOpen capacity => exact .opening isOpen capacity rfl
  | opening => exact holds.opened
  | underway phase =>
      cases phase with
      | finished => exact absurd ready id
      | awaiting p => exact holds.cleared ready
      | sending p room => exact holds.wrote

/-- One step keeps the invariant. -/
theorem Invariant.step (holds : Invariant setup s) (step : Step setup s t) : Invariant setup t := by
  cases step with
  | sender ready moved =>
      have kept := holds.sender ready
      rwa [moved] at kept
  | receiver heard =>
      cases holds with
      | underway isOpen capacity agreed clearances =>
          simp only [Listener.drain, heard] at agreed clearances
          refine .underway isOpen capacity agreed ?_
          rw [List.append_assoc]
          exact clearances
  | forwarder handled =>
      cases holds with
      | underway isOpen capacity agreed clearances =>
          have answer := clearances.answers _ List.mem_cons_self
          rw [step_answer answer] at handled
          have count := clearances.count
          have one := agreed.le_one
          rw [List.cons_append, List.length_cons] at count
          rw [push_of_room isOpen (by omega)] at handled
          cases handled
          refine .underway isOpen capacity agreed ⟨?_, ?_, ?_⟩
          · intro fc this
            rcases List.mem_append.mp this with before | new
            · exact clearances.relayed fc before
            · exact List.mem_singleton.mp new
          · intro frame this
            exact clearances.answers frame (List.mem_cons_of_mem _ this)
          · rw [List.length_append, List.length_singleton, Nat.add_assoc, Nat.add_comm 1]
            exact count

theorem Invariant.of_reachable {relay pending} (isOpen : relay.closed = false)
    (capacity : 1 ≤ relay.capacity) (reached : Reachable setup (.initial relay pending) s) :
    Invariant setup s := by
  induction reached with
  | refl => exact .clearing isOpen capacity
  | tail _ step ih => exact ih.step step

/-! ## What the invariant gives -/

theorem Invariant.faults (holds : Invariant setup s) : s.listener.faults = [] := by
  cases holds with
  | clearing | opening => rfl
  | underway _ _ agreed => exact Listener.faults_drain_eq_nil _ agreed.faults

theorem Invariant.at_most_one (holds : Invariant setup s) (cleared : s.stage ≠ .clearing) :
    s.traffic.back.length + s.traffic.relay.frames.length ≤ 1 := by
  cases holds with
  | clearing => exact absurd rfl cleared
  | opening _ _ empty =>
      rw [empty]
      exact Nat.zero_le 1
  | @underway _ _ _ _ back relay _ _ _ agreed clearances =>
      have count := clearances.count
      have one := agreed.le_one
      rw [List.length_append] at count
      have few : back.length + relay.frames.length ≤ 1 := by omega
      exact few

/-- No flow control is ever pushed out of the relay. -/
theorem Invariant.push (holds : Invariant setup s) (more : s.traffic.back ≠ []) (fc : FlowControl) :
    s.traffic.relay.push fc =
      (true, { s.traffic.relay with frames := s.traffic.relay.frames ++ [fc] }) := by
  cases holds with
  | clearing | opening => exact absurd rfl more
  | underway isOpen capacity agreed clearances =>
      have count := clearances.count
      have one := agreed.le_one
      have positive := List.length_pos_iff.mpr more
      rw [List.length_append] at count
      simp only at positive
      exact push_of_room isOpen (by omega) fc

theorem Invariant.final {outcome} (holds : Invariant setup s)
    (ended : s.stage = .underway (.finished outcome)) (consumed : s.traffic.forth = []) :
    outcome = .ok () ∧ s.listener = ⟨none, [setup.data], []⟩ ∧ s.traffic.back = [] ∧
      s.traffic.relay.frames = [] := by
  cases holds with
  | clearing | opening => nomatch ended
  | @underway _ _ _ _ back relay _ isOpen capacity agreed clearances =>
      cases ended
      cases consumed
      obtain ⟨rfl, heard, rfl⟩ := agreed.of_finished
      have count := clearances.count
      rw [List.length_append] at count
      have empty : relay.frames.length = 0 ∧ back.length = 0 := by omega
      exact ⟨rfl, heard, List.length_eq_zero_iff.mp empty.2, List.length_eq_zero_iff.mp empty.1⟩

/-- Somebody can take a step until the sender is done and the receiver has taken every frame. -/
theorem Invariant.stuck (holds : Invariant setup s) (stuck : ∀ t, ¬ Step setup s t) :
    s.stage = .underway (.finished (.ok ())) ∧ s.traffic.forth = [] := by
  cases holds with
  | clearing => exact absurd (.sender trivial rfl) (stuck _)
  | opening => exact absurd (.sender trivial rfl) (stuck _)
  | @underway phase listener pending forth back relay n isOpen capacity agreed clearances =>
      cases forth with
      | cons frame forth => exact absurd (.receiver rfl) (stuck _)
      | nil =>
          cases phase with
          | sending => exact absurd (.sender trivial rfl) (stuck _)
          | finished outcome =>
              obtain ⟨rfl, _⟩ := agreed.of_finished
              exact ⟨rfl, rfl⟩
          | awaiting p =>
              -- the one clearance is in the relay or can be brought there
              cases back with
              | cons frame back =>
                  have answer := clearances.answers frame List.mem_cons_self
                  exact absurd (.forwarder (step_answer answer _ _)) (stuck _)
              | nil =>
                  have count := clearances.count
                  rw [agreed.of_awaiting] at count
                  have ready : relay.frames ≠ [] := by
                    intro empty
                    rw [empty] at count
                    cases count
                  exact absurd (.sender ready rfl) (stuck _)

/-- Sender, receiver and relay never drift apart, whoever takes the next step. -/
theorem lockstep {relay : Relay} {pending : Option Reassembly} (isOpen : relay.closed = false)
    (capacity : 1 ≤ relay.capacity) (reached : Reachable setup (.initial relay pending) s) :
    s.listener.faults = [] ∧
      (s.stage ≠ .clearing → s.traffic.back.length + s.traffic.relay.frames.length ≤ 1) ∧
      (s.traffic.back ≠ [] → ∀ fc,
        (s.traffic.relay.push fc).2.frames = s.traffic.relay.frames ++ [fc]) ∧
      ((∀ t, ¬ Step setup s t) →
        s.stage = .underway (.finished (.ok ())) ∧ s.traffic.forth = []) ∧
      (∀ outcome, s.stage = .underway (.finished outcome) → s.traffic.forth = [] →
        outcome = .ok () ∧ s.listener = ⟨none, [setup.data], []⟩ ∧ s.traffic.back = [] ∧
          s.traffic.relay.frames = []) := by
  have holds := Invariant.of_reachable isOpen capacity reached
  refine ⟨holds.faults, holds.at_most_one, ?_, holds.stuck, fun _ => holds.final⟩
  intro more fc
  rw [holds.push more]

/-- Eight bytes for a receiver that answers every frame. -/
def Setup.eightBytes : Setup where
  sender := ⟨0x7E0, 0xCC, .ofMillis 1000⟩
  receiver := ⟨0x7E8, .continueToSend 1 0, 0xAA⟩
  forwarder := ⟨0x7E0, 0x7E8, ⟨0x0E80⟩, ⟨0x1000⟩, 2, .continueToSend 0 0, 0⟩
  data := [1, 2, 3, 4, 5, 6, 7, 8]
  blockSize := 1
  separation := 0
  advertises := rfl
  sender_id_le := by decide
  receiver_id_le := by decide
  response_id := rfl
  large := by decide
  small := by decide

/-- The eight bytes get past a relay that holds one frame and was left with a refusal. -/
theorem eight_bytes_in_lockstep :
    ∃ s, Reachable .eightBytes (.initial ⟨1, [.overflow], false⟩ none) s ∧
      s.stage = .underway (.finished (.ok ())) ∧ s.traffic.forth = [] ∧
      s.listener = ⟨none, [[1, 2, 3, 4, 5, 6, 7, 8]], []⟩ ∧ s.traffic.back = [] ∧
      s.traffic.relay.frames = [] := by
  have cleared : Step .eightBytes (.initial ⟨1, [.overflow], false⟩ none)
      ⟨.opening, .fresh, none, ⟨[], [], ⟨1, [], false⟩⟩⟩ := .sender trivial rfl
  have opened := Relation.ReflTransGen.single cleared |>.tail (.sender trivial rfl)
  have heard := opened.tail (.receiver rfl)
  have answered := heard.tail (.forwarder rfl)
  have granted := answered.tail (.sender (List.cons_ne_nil _ _) rfl)
  have sent := granted.tail (.sender trivial rfl)
  have reached := sent.tail (.receiver rfl)
  exact ⟨_, reached, rfl, rfl, ((lockstep rfl (by decide) reached).2.2.2.2 _ rfl rfl).2⟩

end Transfer

end DiagnosticGateway
