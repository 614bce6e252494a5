import DiagnosticGateway.Text.Numeral
import DiagnosticGateway.Text.WhiteSpace

/-! # Requests in hexadecimal

A request is given as pairs of hexadecimal digits with white space anywhere. Pairs are cut by the
bytes that characters take in UTF-8: a character of two bytes makes up a pair by itself, and one
that does not end where a pair ends cannot be cut.
-/

namespace DiagnosticGateway.CommandLine

/-- What is wrong with a request. -/
inductive RequestDefect where
  /-- It is empty, or its bytes are not even in number. -/
  | odd
  /-- A pair is no number. -/
  | badPair (pair : List Char)
  /-- A pair would end inside a character. -/
  | splitCharacter
deriving Repr, DecidableEq

/-- The number of bytes that characters take. -/
def utf8Size : List Char → Nat
  | [] => 0
  | c :: rest => c.utf8Size + utf8Size rest

/-- Takes the characters that make up a pair. -/
def takePair : List Char → Except RequestDefect (List Char × List Char)
  | [] => .error .odd
  | c :: rest =>
    if c.utf8Size = 2 then .ok ([c], rest)
    else
      match rest with
      | [] => .error .splitCharacter
      | d :: left =>
        if c.utf8Size = 1 ∧ d.utf8Size = 1 then .ok ([c, d], left) else .error .splitCharacter

theorem length_takePair_lt {cs pair rest : List Char} (h : takePair cs = .ok (pair, rest)) :
    rest.length < cs.length := by
  unfold takePair at h
  split at h
  · cases h
  · split at h
    · cases h
      simp
    · split at h
      · cases h
      · split at h
        · cases h
          simp only [List.length_cons]
          omega
        · cases h

/-- The value of a pair. -/
def pairValue (pair : List Char) : Except RequestDefect UInt8 :=
  match Numeral.atMost? 16 0xFF pair with
  | some n => .ok (.ofNat n)
  | none => .error (.badPair pair)

def pairValues (cs : List Char) : Except RequestDefect (List UInt8) :=
  match cs with
  | [] => .ok []
  | c :: rest =>
    match _h : takePair (c :: rest) with
    | .error defect => .error defect
    | .ok (pair, left) => do
      let b ← pairValue pair
      return b :: (← pairValues left)
termination_by cs.length
decreasing_by exact length_takePair_lt _h

def readRequest (text : String) : Except RequestDefect (List UInt8) :=
  let cs := text.toList.filter (!isWhiteSpace ·)
  if cs = [] ∨ utf8Size cs % 2 = 1 then .error .odd else pairValues cs

end DiagnosticGateway.CommandLine
