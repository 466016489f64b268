/-! Octet strings and their reading as text. Arguments, paths and process output are raw octets.
They are read as UTF-8 one piece at a time: a piece is a character or a maximal ill-formed
stretch, and lossy text shows each such stretch as one replacement character. -/

namespace ProfiledBuild

abbrev Octets := List UInt8

namespace Utf8

def encode (s : String) : Octets :=
  s.toList.flatMap String.utf8EncodeChar

/-- What may follow a lead octet: the range of the next octet, the number of tail octets after
that one, and the bits that the lead itself carries. -/
structure Lead where
  low : UInt8
  high : UInt8
  tails : Nat
  bits : Nat
  deriving DecidableEq, Repr

/-- The narrowed ranges keep out overlong forms, surrogates and code points past U+10FFFF. -/
def Lead.ofOctet? (b : UInt8) : Option Lead :=
  if b < 0xC2 then none
  else if b < 0xE0 then some ⟨0x80, 0xBF, 0, (b &&& 0x1F).toNat⟩
  else if b = 0xE0 then some ⟨0xA0, 0xBF, 1, 0⟩
  else if b = 0xED then some ⟨0x80, 0x9F, 1, 0x0D⟩
  else if b < 0xF0 then some ⟨0x80, 0xBF, 1, (b &&& 0x0F).toNat⟩
  else if b = 0xF0 then some ⟨0x90, 0xBF, 2, 0⟩
  else if b < 0xF4 then some ⟨0x80, 0xBF, 2, (b &&& 0x07).toNat⟩
  else if b = 0xF4 then some ⟨0x80, 0x8F, 2, 4⟩
  else none

def following (b : UInt8) : Nat := (Lead.ofOctet? b).elim 0 (·.tails + 1)

/-- Gathers the octets after a lead. The code point is missing when an octet is out of its range
or the text ends; that octet is then left in the rest. -/
def follow (low high : UInt8) (tails bits : Nat) : Octets → Option Nat × Octets
  | [] => (none, [])
  | b :: rest =>
    if low ≤ b ∧ b ≤ high then
      let bits := bits * 64 + (b &&& 0x3F).toNat
      match tails with
      | 0 => (some bits, rest)
      | tails + 1 => follow 0x80 0xBF tails bits rest
    else (none, b :: rest)

theorem length_follow_le (low high : UInt8) (tails bits : Nat) (s : Octets) :
    (follow low high tails bits s).2.length ≤ s.length := by
  induction s generalizing low high tails bits with
  | nil => simp [follow]
  | cons b rest ih =>
    unfold follow
    split
    · cases tails with
      | zero => simp
      | succ tails => exact Nat.le_succ_of_le (ih ..)
    · exact Nat.le_refl _

/-- A character, or a maximal stretch of octets that spells none. -/
inductive Piece where
  | char (c : Char)
  | broken (octets : Octets)
  deriving DecidableEq, Repr

/-- The character that starts with octet `b`, if there is one, and what comes after the piece. -/
def step (b : UInt8) (rest : Octets) : Option Char × Octets :=
  if b < 0x80 then (some (Char.ofNat b.toNat), rest)
  else match Lead.ofOctet? b with
    | none => (none, rest)
    | some lead =>
      let (code, rest) := follow lead.low lead.high lead.tails lead.bits rest
      (code.map Char.ofNat, rest)

theorem length_step_le (b : UInt8) (rest : Octets) :
    (step b rest).2.length ≤ rest.length := by
  unfold step
  split
  · exact Nat.le_refl _
  · split
    · exact Nat.le_refl _
    · exact length_follow_le ..

def pieces : Octets → List Piece
  | [] => []
  | b :: rest =>
    let first := match (step b rest).1 with
      | some c => .char c
      | none => .broken ((b :: rest).take (rest.length + 1 - (step b rest).2.length))
    first :: pieces (step b rest).2
termination_by s => s.length
decreasing_by exact Nat.lt_succ_of_le (length_step_le ..)

def Piece.char? : Piece → Option Char
  | .char c => some c
  | .broken _ => none

def lossy (s : Octets) : String :=
  String.ofList ((pieces s).map (·.char?.getD '\uFFFD'))

def decode? (s : Octets) : Option String :=
  ((pieces s).mapM Piece.char?).map String.ofList

end Utf8

end ProfiledBuild
