namespace BarrelModule.Text

abbrev Bytes := List UInt8

def encode (s : String) : Bytes :=
  s.toList.flatMap String.utf8EncodeChar

namespace Utf8

def replacement : Char := '\uFFFD'

/-- The part of a character read so far: how many bytes it still lacks, the least and the greatest
value of the next one, and the bits collected. -/
inductive Pending where
  | between
  | inside (lacking : Nat) (least greatest : UInt8) (bits : Nat)
  deriving DecidableEq, Repr

def start (b : UInt8) : List Char × Pending :=
  if b ≤ 0x7F then ([Char.ofNat b.toNat], .between)
  else if b < 0xC2 then ([replacement], .between)
  else if b ≤ 0xDF then ([], .inside 1 0x80 0xBF (b.toNat - 0xC0))
  else if b = 0xE0 then ([], .inside 2 0xA0 0xBF 0)
  else if b = 0xED then ([], .inside 2 0x80 0x9F 0xD)
  else if b ≤ 0xEF then ([], .inside 2 0x80 0xBF (b.toNat - 0xE0))
  else if b = 0xF0 then ([], .inside 3 0x90 0xBF 0)
  else if b ≤ 0xF3 then ([], .inside 3 0x80 0xBF (b.toNat - 0xF0))
  else if b = 0xF4 then ([], .inside 3 0x80 0x8F 4)
  else ([replacement], .between)

/-- A byte that cannot continue the character begun ends it, as one replacement, and starts anew. -/
def step : Pending → UInt8 → List Char × Pending
  | .between, b => start b
  | .inside lacking least greatest bits, b =>
    if least ≤ b ∧ b ≤ greatest then
      let bits := bits * 64 + (b.toNat - 0x80)
      if lacking ≤ 1 then ([Char.ofNat bits], .between)
      else ([], .inside (lacking - 1) 0x80 0xBF bits)
    else (replacement :: (start b).1, (start b).2)

def decodeFrom : Pending → Bytes → List Char
  | .between, [] => []
  | .inside _ _ _ _, [] => [replacement]
  | p, b :: bs => (step p b).1 ++ decodeFrom (step p b).2 bs

end Utf8

/-- The text that bytes spell, with one replacement character for each maximal piece of a character
that is not completed and for each byte that no character holds. -/
def decode (bs : Bytes) : String :=
  String.ofList (Utf8.decodeFrom .between bs)

end BarrelModule.Text
