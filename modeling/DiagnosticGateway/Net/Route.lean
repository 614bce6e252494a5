import DiagnosticGateway.Fault

/-! # Reaching a peer

Whether the host has a route to the peer of a connection. Without one, connecting fails before
the first byte is exchanged.
-/

namespace DiagnosticGateway.Net

/-- What the host's network offers. -/
inductive Route where
  | open
  | unreachable
deriving Repr, DecidableEq

def Route.connect : Route → Except IoError Unit
  | .open => .ok ()
  | .unreachable =>
    .error ⟨.networkUnreachable, "Network is unreachable (os error 101)"⟩

end DiagnosticGateway.Net
