import Mathlib.Data.List.Nodup
import DiagnosticGateway.Proofs.Config.Identifiers
import DiagnosticGateway.Proofs.Gateway.System

/-! # No channel is shared and none is lost

The channels of a gateway are either free or leased, each of them once, whatever its guests do and
however they come to their end. Since the channels of a valid configuration have no identifier in
common, neither have two guests, and each guest writes on its own identifier only.
-/

namespace DiagnosticGateway.Gateway

open Bus (Frame)

/-! ## The gateway's own steps -/

section Gateway

variable {g next : Gateway} {tester : Nat} {channel : Channel}

theorem bind_eq_ok_iff {c : Config} :
    bind c = .ok g ↔ c.validate = .ok () ∧ g = ⟨c, ⟨c.can.channels⟩, []⟩ := by
  unfold bind
  cases c.validate with
  | error fault => exact iff_of_false nofun nofun
  | ok => exact ⟨fun bound => by cases bound; exact ⟨rfl, rfl⟩, fun ⟨_, same⟩ => by rw [same]; rfl⟩

/-- A tester is only refused when no channel is free, and leaves no trace. -/
theorem accept_refused (concurrent : g.config.concurrentSessions)
    (refused : (g.accept tester).1 = none) :
    g.pool.free = [] ∧ (g.accept tester).2 = g := by
  unfold accept Pool.lease at *
  rw [if_pos concurrent] at *
  cases free : g.pool.free with
  | nil => simp only [and_self]
  | cons first rest =>
      rw [free] at refused
      cases refused

/-- A tester that is accepted gets the first of the free channels. -/
theorem accept_granted (concurrent : g.config.concurrentSessions)
    (granted : g.accept tester = (some channel, next)) :
    ∃ rest, g.pool.free = channel :: rest ∧
      next = { g with pool := ⟨rest⟩, sessions := g.sessions ++ [(tester, channel)] } := by
  unfold accept Pool.lease at granted
  rw [if_pos concurrent] at granted
  cases free : g.pool.free with
  | nil =>
      rw [free] at granted
      cases granted
  | cons first rest =>
      rw [free] at granted
      cases granted
      exact ⟨rest, rfl, rfl⟩

theorem dismiss_eq (concurrent : g.config.concurrentSessions) {before after : List (Nat × Channel)}
    (sessions : g.sessions = before ++ (tester, channel) :: after)
    (fresh : tester ∉ before.map Prod.fst) :
    g.dismiss tester =
      { g with pool := g.pool.release channel, sessions := before ++ after } := by
  have absent : (tester, channel) ∉ before := fun this => fresh (List.mem_map_of_mem this)
  have found : g.sessions.find? (·.1 == tester) = some (tester, channel) := by
    have others : before.find? (·.1 == tester) = none := by
      rw [List.find?_eq_none]
      intro session this same
      exact fresh (eq_of_beq same ▸ List.mem_map_of_mem this)
    rw [sessions, List.find?_append, others, Option.none_or, List.find?_cons_of_pos]
    exact beq_self_eq_true tester
  have erased : g.sessions.erase (tester, channel) = before ++ after := by
    rw [sessions, List.erase_append_right _ absent, List.erase_cons_head]
  simp only [dismiss, found, erased, if_pos concurrent]

end Gateway

/-! ## One guest -/

/-- The forwarder of a guest, if it has one, is not about to write anything but full frames on the
identifier for requests. -/
def Stage.Sound (c : Config) : Stage → Prop
  | .serving _ forwarder => forwarder.Sound (.ofConfig c)
  | .joining forwarder => forwarder.Sound (.ofConfig c)
  | _ => True

theorem full_of_step {fw : Forwarder} {point next : Forwarder.Point} {call frame}
    (sound : point.Sound fw) (step : Forwarder.Point.Step fw point call next)
    (wrote : frame ∈ (call.bind Forwarder.Call.frame?).toList) : frame.Full fw.requestId := by
  cases step with
  | look | read => cases wrote
  | @act action =>
      cases action with
      | none | relay | deliver => cases wrote
      | write frame =>
          cases List.mem_singleton.mp wrote
          exact sound

theorem Stage.Next.full {c : Config} {stage next : Stage} {frames}
    (step : Stage.Next c stage frames next) (sound : stage.Sound c) :
    next.Sound c ∧ ∀ frame ∈ frames, frame.Full c.can.requestId := by
  cases step with
  | threadStarts | threadFails | busOpens | busFails | forwarderStarts | forwarderFails
  | forwarderEnds => exact ⟨trivial, List.forall_mem_nil _⟩
  | sessionEnds => exact ⟨sound, List.forall_mem_nil _⟩
  | @session t call t' forwarder step =>
      refine ⟨sound, fun frame wrote => ?_⟩
      rcases call with _ | ⟨_ | _ | _ | ⟨written | _ | _⟩⟩
      case some.link.write =>
        cases List.mem_singleton.mp wrote
        exact step.full
      all_goals cases wrote
  | forwarder step => exact ⟨step.sound, fun frame => full_of_step sound step⟩
  | drains step => exact ⟨step.sound, fun frame => full_of_step sound step⟩

/-- What a guest has, and has done, is in accordance with its lease. -/
structure Guest.Proper (c : Config) (guest : Guest) : Prop where
  config : guest.config = c.withChannel guest.channel
  sound : guest.stage.Sound guest.config
  full : ∀ frame ∈ guest.written, frame.Full guest.channel.requestId

theorem Guest.Proper.proceed {c : Config} {guest : Guest} {frames stage} (proper : guest.Proper c)
    (step : Stage.Next guest.config guest.stage frames stage) :
    { guest with stage, written := guest.written ++ frames }.Proper c := by
  have ⟨sound, full⟩ := step.full proper.sound
  refine ⟨proper.config, sound, ?_⟩
  intro frame wrote
  rcases List.mem_append.mp wrote with old | new
  · exact proper.full frame old
  · exact full frame new

/-! ## All of them -/

/-- The books of a gateway with concurrent sessions are in order. -/
structure Ledger (c : Config) (s : State) : Prop where
  config : s.gateway.config = c
  sessions : s.gateway.sessions = s.guests.map fun guest => (guest.tester, guest.channel)
  testers : (s.guests.map Guest.tester).Nodup
  /-- The free channels and the leased ones are all channels. -/
  channels : (s.gateway.pool.free ++ s.guests.map Guest.channel).Perm c.can.channels
  proper : ∀ guest ∈ s.guests, guest.Proper c

namespace Ledger

variable {c : Config}

theorem initial {g : Gateway} (bound : bind c = .ok g) : Ledger c (.initial g) := by
  obtain ⟨_, rfl⟩ := bind_eq_ok_iff.mp bound
  exact ⟨rfl, rfl, List.nodup_nil, .of_eq (List.append_nil _), List.forall_mem_nil _⟩

/-- A channel that is leased goes from the free ones to its guest. -/
theorem grant {g next : Gateway} {guests tester channel} (concurrent : c.concurrentSessions)
    (ledger : Ledger c ⟨g, guests⟩) (fresh : tester ∉ guests.map Guest.tester)
    (granted : g.accept tester = (some channel, next)) :
    Ledger c ⟨next, guests ++ [⟨tester, g.sessionConfig channel, .accepted, []⟩]⟩ := by
  have config : g.config = c := ledger.config
  obtain ⟨rest, free, rfl⟩ := accept_granted (config ▸ concurrent) granted
  refine ⟨config, ?_, ?_, ?_, ?_⟩
  · rw [List.map_append, List.map_singleton]
    exact congrArg (· ++ [(tester, channel)]) ledger.sessions
  · rw [List.map_append, List.map_singleton, List.nodup_append]
    refine ⟨ledger.testers, List.nodup_singleton _, ?_⟩
    intro old this new last same
    rw [same, List.mem_singleton.mp last] at this
    exact fresh this
  · have channels := ledger.channels
    rw [free] at channels
    refine .trans ?_ channels
    rw [List.map_append, List.map_singleton, ← List.append_assoc]
    exact List.perm_append_singleton channel _
  · intro guest this
    rcases List.mem_append.mp this with old | new
    · exact ledger.proper guest old
    · cases List.mem_singleton.mp new
      exact ⟨by rw [sessionConfig, config]; rfl, trivial, List.forall_mem_nil _⟩

theorem proceed {g : Gateway} {before guest after frames stage}
    (ledger : Ledger c ⟨g, before ++ guest :: after⟩)
    (step : Stage.Next guest.config guest.stage frames stage) :
    Ledger c ⟨g, before ++ { guest with stage, written := guest.written ++ frames } :: after⟩ := by
  have ⟨config, sessions, testers, channels, proper⟩ := ledger
  simp only [List.map_append, List.map_cons] at sessions testers channels
  refine ⟨config, ?_, ?_, ?_, ?_⟩
  · rw [List.map_append, List.map_cons]
    exact sessions
  · rw [List.map_append, List.map_cons]
    exact testers
  · rw [List.map_append, List.map_cons]
    exact channels
  · rw [List.forall_mem_append, List.forall_mem_cons] at proper ⊢
    exact ⟨proper.1, proper.2.1.proceed step, proper.2.2⟩

/-- A channel that is given back goes from its guest to the free ones. -/
theorem release {g : Gateway} {before guest after} (concurrent : c.concurrentSessions)
    (ledger : Ledger c ⟨g, before ++ guest :: after⟩) :
    Ledger c ⟨g.dismiss guest.tester, before ++ after⟩ := by
  have ⟨config, sessions, testers, channels, proper⟩ := ledger
  simp only [List.map_append, List.map_cons] at config sessions testers channels
  rw [List.nodup_middle, List.nodup_cons, ← List.map_append] at testers
  have fresh : guest.tester ∉
      (before.map fun guest => (guest.tester, guest.channel)).map Prod.fst := by
    rw [List.map_map]
    exact fun this => testers.1 (List.map_append ▸ List.mem_append_left _ this)
  rw [dismiss_eq (config ▸ concurrent) sessions fresh]
  refine ⟨config, ?_, testers.2, ?_, ?_⟩
  · rw [List.map_append]
  · refine .trans ?_ channels
    rw [Pool.release, List.map_append, List.append_assoc, List.singleton_append]
    exact List.perm_middle.symm.append_left _
  · rw [List.forall_mem_append, List.forall_mem_cons] at proper
    exact List.forall_mem_append.mpr ⟨proper.1, proper.2.2⟩

theorem step {s s' : State} (concurrent : c.concurrentSessions) (ledger : Ledger c s)
    (step : Step s s') : Ledger c s' := by
  cases step with
  | grant fresh granted => exact ledger.grant concurrent fresh granted
  | refuse refused =>
      have config : _ = c := ledger.config
      have same := (accept_refused (config ▸ concurrent) (congrArg Prod.fst refused)).2
      rw [refused] at same
      cases same
      exact ledger
  | proceed step => exact ledger.proceed step
  | release => exact ledger.release concurrent

theorem of_reachable {start s : State} (concurrent : c.concurrentSessions)
    (ledger : Ledger c start) (reached : Reachable start s) : Ledger c s := by
  induction reached with
  | refl => exact ledger
  | tail _ step ih => exact ih.step concurrent step

/-- No two guests have an identifier in common. -/
theorem ids {s : State} (ledger : Ledger c s) (valid : c.validate = .ok ()) :
    (s.guests.flatMap fun guest => guest.channel.ids).Nodup := by
  have all := (Config.ids_of_validate valid).2
  rw [← (ledger.channels.flatMap_right Channel.ids).nodup_iff, List.flatMap_append] at all
  rw [← List.flatMap_map]
  exact (List.nodup_append.mp all).2.1

end Ledger

/-- The channels of a valid configuration are all different. -/
theorem nodup_channels {c : Config} (valid : c.validate = .ok ()) : c.can.channels.Nodup := by
  have all := (Config.ids_of_validate valid).2
  rw [List.nodup_flatMap] at all
  refine all.2.imp ?_
  rintro channel _ disjoint rfl
  exact disjoint List.mem_cons_self List.mem_cons_self

/-- Whatever the guests of a gateway with concurrent sessions do, and in whatever order: every
channel is either free or leased to one guest, the identifiers of all guests differ, each guest only
writes full frames on its own identifier for requests, nobody is refused while a channel is free, and
all channels are free again when nobody is left. -/
theorem channels_neither_shared_nor_lost {c : Config} {g : Gateway} (bound : bind c = .ok g)
    (concurrent : c.concurrentSessions) {s : State} (reached : Reachable (.initial g) s) :
    s.gateway.sessions = s.guests.map (fun guest => (guest.tester, guest.channel)) ∧
    (s.gateway.pool.free ++ s.guests.map Guest.channel).Perm c.can.channels ∧
    c.can.channels.Nodup ∧
    (s.guests.flatMap fun guest => guest.channel.ids).Nodup ∧
    (∀ guest ∈ s.guests, guest.config = c.withChannel guest.channel ∧
      ∀ frame ∈ guest.written,
        frame.id = guest.channel.requestId ∧ frame.data.length = Bus.maxData) ∧
    (∀ tester, (s.gateway.accept tester).1 = none →
      (s.guests.map Guest.channel).Perm c.can.channels ∧
        (s.gateway.accept tester).2 = s.gateway) ∧
    (s.guests = [] → s.gateway.pool.free.Perm c.can.channels) := by
  have valid : c.validate = .ok () := (bind_eq_ok_iff.mp bound).1
  have ledger := (Ledger.initial bound).of_reachable concurrent reached
  refine ⟨ledger.sessions, ledger.channels, nodup_channels valid, ledger.ids valid, ?_, ?_, ?_⟩
  · intro guest this
    have proper := ledger.proper guest this
    exact ⟨proper.config, fun frame wrote => ⟨(proper.full frame wrote).id,
      (proper.full frame wrote).length⟩⟩
  · intro tester refused
    have ⟨empty, same⟩ := accept_refused (ledger.config ▸ concurrent) refused
    have channels := ledger.channels
    rw [empty, List.nil_append] at channels
    exact ⟨channels, same⟩
  · intro nobody
    have channels := ledger.channels
    rwa [nobody, List.map_nil, List.append_nil] at channels

/-- Two testers lease both channels and a third one is refused. The thread of the first does not
start and the bus of the second does not open, so in the end all channels are free. -/
theorem two_leases_come_back :
    let c : Config :=
      { concurrentSessions := true, can := { sessionChannels := [⟨0x7E1, 0x7E9⟩] } }
    let g : Gateway := ⟨c, ⟨[⟨0x7E0, 0x7E8⟩, ⟨0x7E1, 0x7E9⟩]⟩, []⟩
    let first : Guest := ⟨1, c.withChannel ⟨0x7E0, 0x7E8⟩, .accepted, []⟩
    let second : Guest := ⟨2, c.withChannel ⟨0x7E1, 0x7E9⟩, .accepted, []⟩
    let full : Gateway := ⟨c, ⟨[]⟩, [(1, ⟨0x7E0, 0x7E8⟩), (2, ⟨0x7E1, 0x7E9⟩)]⟩
    bind c = .ok g ∧ Reachable (.initial g) ⟨full, [first, second]⟩ ∧
      ([first, second].map Guest.channel).Perm c.can.channels ∧ (full.accept 3).2 = full ∧
      ∃ free, Reachable (.initial g) ⟨⟨c, ⟨free⟩, []⟩, []⟩ ∧ free.Perm c.can.channels := by
  intro c g first second full
  have bound : bind c = .ok g := by rfl
  have leased : Reachable (.initial g) ⟨full, [first, second]⟩ :=
    .tail (.tail .refl (.grant (by decide) rfl)) (.grant (by decide) rfl)
  have ⟨_, _, _, _, _, refused, _⟩ := channels_neither_shared_nor_lost bound rfl leased
  have ⟨all, same⟩ := refused 3 rfl
  let alone : Gateway := ⟨c, ⟨[⟨0x7E0, 0x7E8⟩]⟩, [(2, ⟨0x7E1, 0x7E9⟩)]⟩
  have unstarted := @Step.proceed full [] first [second] [] .over .threadFails
  have gone : Step ⟨full, [{ first with stage := .over }, second]⟩ ⟨alone, [second]⟩ :=
    @Step.release full [] { first with stage := .over } [second] rfl
  have opening := @Step.proceed alone [] second [] [] .opening .threadStarts
  have unopened := @Step.proceed alone [] { second with stage := .opening } [] [] .over .busFails
  have last : Step ⟨alone, [{ second with stage := .over }]⟩ ⟨g, []⟩ :=
    @Step.release alone [] { second with stage := .over } [] rfl
  have left : Reachable (.initial g) ⟨g, []⟩ :=
    ((((leased.tail unstarted).tail gone).tail opening).tail unopened).tail last
  have ⟨_, _, _, _, _, _, free⟩ := channels_neither_shared_nor_lost bound rfl left
  exact ⟨bound, leased, all, same, _, left, free rfl⟩

end DiagnosticGateway.Gateway
