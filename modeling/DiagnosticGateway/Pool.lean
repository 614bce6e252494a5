import DiagnosticGateway.Config.Basic

/-! # The pool of channels

Concurrent sessions each lease a channel of their own and give it back at their end. The channel
that has been free for the longest time is leased first.
-/

namespace DiagnosticGateway

/-- The channels that no session uses, the one free for the longest time first. -/
structure Pool where
  free : List Channel
deriving Repr, DecidableEq

namespace Pool

def lease (pool : Pool) : Option (Channel × Pool) :=
  match pool.free with
  | [] => none
  | channel :: rest => some (channel, ⟨rest⟩)

def release (pool : Pool) (channel : Channel) : Pool := ⟨pool.free ++ [channel]⟩

end Pool

end DiagnosticGateway
