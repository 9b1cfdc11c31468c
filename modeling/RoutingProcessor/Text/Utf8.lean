namespace RoutingProcessor.Text

abbrev Octets := List UInt8

-- The octets of a text in UTF-8.
def octets (text : String) : Octets := text.toList.flatMap String.utf8EncodeChar

namespace Utf8

-- What a first octet announces: the value bits it carries, how many octets
-- follow, and the range of the next one. The narrower ranges after E0, ED, F0 and
-- F4 leave out overlong forms, surrogates and values above U+10FFFF.
structure Lead where
  bits : Nat
  more : Nat
  low : UInt8
  high : UInt8

def Lead.of? (b : UInt8) : Option Lead :=
  if b < 0x80 then some ⟨b.toNat, 0, 0x80, 0xBF⟩
  else if b < 0xC2 then none
  else if b < 0xE0 then some ⟨b.toNat - 0xC0, 1, 0x80, 0xBF⟩
  else if b < 0xF0 then
    some ⟨b.toNat - 0xE0, 2, if b = 0xE0 then 0xA0 else 0x80, if b = 0xED then 0x9F else 0xBF⟩
  else if b < 0xF5 then
    some ⟨b.toNat - 0xF0, 3, if b = 0xF0 then 0x90 else 0x80, if b = 0xF4 then 0x8F else 0xBF⟩
  else none

-- Reads `more` continuation octets, the next of them within `low` and `high`.
-- Stops before the first octet that cannot continue, so what has been read until
-- then is a longest prefix of some character.
def continuation : (more : Nat) → (low high : UInt8) → (value : Nat) → Octets → Option Nat × Octets
  | 0, _, _, value, rest => (some value, rest)
  | _ + 1, _, _, _, [] => (none, [])
  | more + 1, low, high, value, b :: rest =>
    if low ≤ b ∧ b ≤ high then
      continuation more 0x80 0xBF (value * 64 + (b.toNat - 0x80)) rest
    else (none, b :: rest)

theorem continuation_length_le (more : Nat) (low high : UInt8) (value : Nat) (bs : Octets) :
    (continuation more low high value bs).2.length ≤ bs.length := by
  fun_induction continuation more low high value bs with
  | case1 => exact Nat.le_refl _
  | case2 => exact Nat.le_refl _
  | case3 more low high value b rest _ ih => exact Nat.le_succ_of_le ih
  | case4 => exact Nat.le_refl _

-- The first character of `b :: rest`, or nothing for a broken one, and the octets
-- behind it.
def first (b : UInt8) (rest : Octets) : Option Char × Octets :=
  match Lead.of? b with
  | none => (none, rest)
  | some lead =>
    match continuation lead.more lead.low lead.high lead.bits rest with
    | (value, rest) => (value.map Char.ofNat, rest)

theorem first_length_le (b : UInt8) (rest : Octets) : (first b rest).2.length ≤ rest.length := by
  unfold first
  split
  · exact Nat.le_refl _
  · exact continuation_length_le _ _ _ _ _

-- The characters of an octet sequence, with nothing in place of each longest
-- broken piece.
def pieces : Octets → List (Option Char)
  | [] => []
  | b :: rest => (first b rest).1 :: pieces (first b rest).2
termination_by bs => bs.length
decreasing_by exact Nat.lt_succ_of_le (first_length_le b rest)

-- U+FFFD stands for every longest broken piece.
def decodeLossy (bs : Octets) : String :=
  String.ofList ((pieces bs).map (·.getD '\uFFFD'))

-- Refuses an octet sequence with a broken piece.
def decode? (bs : Octets) : Option String :=
  ((pieces bs).mapM id).map String.ofList

end Utf8

end RoutingProcessor.Text
