import DiagnosticGateway.Proofs.Connection.System

/-! # Accepted, sent, answered

A session thread only sends a request that it has accepted, and an ECU only answers a request of
which it has seen a frame. So whatever the forwarder reads in answer to a request comes after the
acceptance, and so does what it delivers then.
-/

namespace DiagnosticGateway.Connection

open Forwarder (Event)

namespace Happening

variable {c : Config} {history : List Happening} {request : Nat} {x : Happening}

/-- The request with this number was accepted, and the tester was told so. -/
def Accepts (c : Config) (history : List Happening) (request : Nat) : Prop :=
  .session request (.reply (Session.acceptance c) (.ok ())) ∈ history

theorem Accepts.append (accepted : Accepts c history request) :
    Accepts c (history ++ [x]) request :=
  List.mem_append_left _ accepted

theorem Writes.of_append (writes : Writes (history ++ [x]) request) :
    Writes history request ∨ ∃ frame, x = .session request (.link (.write frame (.ok ()))) := by
  obtain ⟨frame, this⟩ := writes
  rcases List.mem_append.mp this with earlier | now
  · exact .inl ⟨frame, earlier⟩
  · exact .inr ⟨frame, (List.mem_singleton.mp now).symm⟩

def event? : Happening → Option Event
  | .session _ _ => none
  | .forwarder call _ => call.event?

end Happening

/-- What the forwarder has read from the bus. -/
def heard (history : List Happening) : List Event := history.filterMap Happening.event?

namespace Shared

variable {s s' : Shared}

theorem ServesSession.bus_eq {timeout call} (served : s.ServesSession timeout call s') :
    s'.bus = s.bus := by
  cases served <;> rfl

/-- A forwarder only reads what is on the bus, and puts nothing there that comes back to it. -/
theorem ServesForwarder.from_bus {call answers} (served : s.ServesForwarder call answers s') :
    s'.bus ⊆ s.bus ∧ ∀ request ∈ answers, ∃ signal ∈ s.bus, request ∈ signal.answers := by
  cases served with
  | frame next =>
      rw [next]
      exact ⟨List.subset_cons_self _ _, fun _ this => ⟨_, List.mem_cons_self, this⟩⟩
  | look | timeout | broken | nothing | relay | write | deliver =>
      exact ⟨List.Subset.refl _, fun _ this => absurd this (Option.not_mem_none _)⟩

end Shared

/-- All that has to do with a request comes after its acceptance. -/
structure Causal (c : Config) (s : State) : Prop where
  sending : s.session.point.Sending → Happening.Accepts c s.history s.session.reads
  written : ∀ request, Happening.Writes s.history request → Happening.Accepts c s.history request
  /-- What is on the bus for the forwarder. -/
  coming : ∀ signal ∈ s.shared.bus, ∀ request ∈ signal.answers,
    Happening.Accepts c s.history request
  /-- What the forwarder has read. -/
  read : ∀ call request, .forwarder call (some request) ∈ s.history →
    Happening.Accepts c s.history request

namespace Causal

variable {c : Config} {s t : State}

theorem initial (source : Doip.Source) (relay : Relay) (bus : List Bus.Frame) :
    Causal c (.initial source relay bus) where
  sending := False.elim
  written _ := fun ⟨_, this⟩ => absurd this List.not_mem_nil
  coming := by
    intro signal this request answered
    obtain ⟨frame, _, rfl⟩ := List.mem_map.mp this
    exact absurd answered (Option.not_mem_none request)
  read _ _ this := absurd this List.not_mem_nil

variable {session next : Session.Thread} {forwarder point : Forwarder.Point}
  {shared shared' : Shared} {history : List Happening}

/-- The session thread only comes to send a request by its acceptance, and then keeps its number. -/
theorem session_step {call} (causal : Causal c ⟨session, forwarder, shared, history⟩)
    (step : Session.Thread.Step c session (some call) next)
    (served : shared.ServesSession (Session.sender c).timeout call shared') :
    Causal c ⟨next, forwarder, shared', history ++ [.session next.reads call]⟩ where
  sending sending := by
    obtain ⟨reads, earlier | now⟩ := step.sending sending
    · have accepted := causal.sending earlier
      rw [← reads] at accepted
      exact accepted.append
    · -- The call is the acceptance itself.
      cases now
      exact List.mem_append_right _ List.mem_cons_self
  written := by
    intro request writes
    rcases writes.of_append with earlier | ⟨frame, now⟩
    · exact (causal.written request earlier).append
    · cases now
      obtain ⟨sending, reads⟩ := step.sending_of_link
      have accepted := causal.sending sending
      rw [← reads] at accepted
      exact accepted.append
  coming := by
    intro signal this request answers
    rw [served.bus_eq] at this
    exact (causal.coming signal this request answers).append
  read := by
    intro other request this
    rcases List.mem_append.mp this with earlier | now
    · exact (causal.read other request earlier).append
    · cases List.mem_singleton.mp now

theorem forwarder_step {call answers} (causal : Causal c ⟨session, forwarder, shared, history⟩)
    (served : shared.ServesForwarder call answers shared') :
    Causal c ⟨session, point, shared', history ++ [.forwarder call answers]⟩ where
  sending sending := (causal.sending sending).append
  written := by
    intro request writes
    rcases writes.of_append with earlier | ⟨frame, now⟩
    · exact (causal.written request earlier).append
    · cases now
  coming := by
    intro signal this request answers
    exact (causal.coming signal (served.from_bus.1 this) request answers).append
  read := by
    intro other request this
    rcases List.mem_append.mp this with earlier | now
    · exact (causal.read other request earlier).append
    · cases List.mem_singleton.mp now
      obtain ⟨signal, this, answers⟩ := served.from_bus.2 request rfl
      exact (causal.coming signal this request answers).append

theorem step (causal : Causal c s) (step : Step c s t) : Causal c t := by
  cases step with
  | session step served => exact causal.session_step step served
  | silent step =>
      refine ⟨fun sending => ?_, causal.written, causal.coming, causal.read⟩
      obtain ⟨reads, earlier | now⟩ := step.sending sending
      · rw [reads]
        exact causal.sending earlier
      · cases now
  | forwarder _ served => exact causal.forwarder_step served
  | signal caused =>
      refine ⟨causal.sending, causal.written, ?_, causal.read⟩
      intro other this request answers
      rcases List.mem_append.mp this with earlier | now
      · exact causal.coming other earlier request answers
      · cases List.mem_singleton.mp now
        exact causal.written request (caused request answers)
  | lower | close => exact ⟨causal.sending, causal.written, causal.coming, causal.read⟩

theorem of_reachable {start} (reached : Reachable c start s) (causal : Causal c start) :
    Causal c s := by
  induction reached with
  | refl => exact causal
  | tail _ step ih => exact ih.step step

end Causal

/-- The frames that the forwarder has read account for what it is about to do. -/
theorem tracks_of_reachable {c : Config} {s : State} {source relay bus}
    (reached : Reachable c (.initial source relay bus) s) :
    s.forwarder.Tracks (.ofConfig c) (heard s.history) := by
  induction reached with
  | refl => exact Forwarder.Tracked.none
  | tail _ step ih =>
      cases step with
      | @session _ _ _ history call next =>
          have same : heard (history ++ [.session next.reads call]) = heard history :=
            List.filterMap_append.trans (List.append_nil _)
          rw [same]
          exact ih
      | @forwarder _ _ _ history call _ answers _ step =>
          have longer : heard (history ++ [.forwarder call answers]) =
              heard history ++ call.event?.toList := by
            rw [heard, List.filterMap_append]
            rfl
          rw [longer]
          exact ih.step step
      | silent | signal | lower | close => exact ih

/-- What is delivered is spelled by frames that were read before, and if one of those frames answers
a request, the request was accepted before. -/
theorem delivery_of_reachable {c : Config} {s : State} {source relay bus}
    {before m outcome answers after}
    (reached : Reachable c (.initial source relay bus) s)
    (split : s.history = before ++ .forwarder (.act (.deliver m) outcome) answers :: after) :
    (∃ passage : Forwarder.Passage, heard before = passage.events ∧
      passage.Sound (.ofConfig c) ∧ m = (Forwarder.ofConfig c).message passage.data) ∧
    ∀ call request, .forwarder call (some request) ∈ before →
      Happening.Accepts c before request := by
  obtain ⟨t, u, reached, rfl, step, grown⟩ := reached.exists_step rfl split
  refine ⟨?_, (Causal.of_reachable reached (.initial source relay bus)).read⟩
  rcases step.call_cases grown with ⟨_, other, _⟩ | ⟨call, _, same, acted⟩
  · cases other
  · cases same
    have tracks := tracks_of_reachable reached
    generalize t.forwarder = point at tracks acted
    generalize u.forwarder = next at acted
    cases acted
    exact tracks.exists_passage

end DiagnosticGateway.Connection
