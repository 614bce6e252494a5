import DiagnosticGateway.Bus.Frame

/-! # An ECU by rules

A stand-in for an ECU answers each frame written to the bus by the first of its rules that fits
the frame's data. A rule may apply only once, and it may make the write fail.
-/

namespace DiagnosticGateway.Bench

open Bus (Frame)

/-- How the ECU answers frames that start in a certain way. -/
structure Rule where
  /-- The data that a frame has to start with. -/
  start : List UInt8
  replies : List Frame
  once : Bool := false
  fails : Bool := false
deriving DecidableEq

/-- The fault of a write that was made to fail. -/
def busFailure : Fault := .io ⟨.other, "scripted bus failure"⟩

/-- An ECU, by the rules that are still in force. -/
structure Ecu where
  rules : List Rule
deriving DecidableEq

namespace Ecu

/-- Finds the first rule that fits, and the rules in force after it applied. -/
def apply (data : List UInt8) : List Rule → Option Rule × List Rule
  | [] => (none, [])
  | rule :: rest =>
    if rule.start.isPrefixOf data then (some rule, if rule.once then rest else rule :: rest)
    else
      let (found, rest) := apply data rest
      (found, rule :: rest)

/-- The rule by which the ECU meets a frame, if there is one, and the ECU afterwards. -/
def meet (ecu : Ecu) (frame : Frame) : Option Rule × Ecu :=
  let (found, rules) := apply frame.data ecu.rules
  (found, ⟨rules⟩)

/-- The frames that the ECU sends when one is written to the bus, unless the write fails. -/
def respond (ecu : Ecu) (frame : Frame) : Except Fault (List Frame) × Ecu :=
  let (found, ecu) := ecu.meet frame
  match found with
  | none => (.ok [], ecu)
  | some rule => (if rule.fails then .error busFailure else .ok rule.replies, ecu)

end Ecu

/-- A bus in memory: the frames still to be read, those that were written, and the ECU. -/
structure MemoryBus where
  inbound : List Frame := []
  written : List Frame := []
  ecu : Ecu := ⟨[]⟩
deriving DecidableEq

namespace MemoryBus

def inject (bus : MemoryBus) (frame : Frame) : MemoryBus :=
  { bus with inbound := bus.inbound ++ [frame] }

def read (bus : MemoryBus) : Option Frame × MemoryBus :=
  (bus.inbound.head?, { bus with inbound := bus.inbound.drop 1 })

/-- Writes a frame, and lets the ECU answer it. This bus takes every frame, so a rule that fits only
answers, also one that would make the write fail. -/
def write (bus : MemoryBus) (frame : Frame) : MemoryBus :=
  let (found, ecu) := bus.ecu.meet frame
  { inbound := bus.inbound ++ (found.map Rule.replies).getD []
    written := bus.written ++ [frame]
    ecu }

def text (bus : MemoryBus) : String :=
  "MockBus \x7b pending: " ++ toString bus.inbound.length ++ ", written: "
    ++ toString bus.written.length ++ " \x7d"

end MemoryBus

end DiagnosticGateway.Bench
