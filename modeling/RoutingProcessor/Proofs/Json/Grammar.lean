import RoutingProcessor.Json.Skip

namespace RoutingProcessor.Json

open Text
open String (utf8EncodeChar)

-- White space, or nothing at all.
def Blank (gap : Octets) : Prop := ∀ b ∈ gap, isSpace b = true

section Text

-- A hexadecimal digit in either case, with its value.
def HexDigit (b : UInt8) (n : Nat) : Prop :=
  (n < 10 ∧ b.toNat = 0x30 + n) ∨ (10 ≤ n ∧ n < 16 ∧ (b.toNat = 0x57 + n ∨ b.toNat = 0x37 + n))

-- Four hexadecimal digits behind a backslash and a `u`.
inductive UnitEscape : Nat → Octets → Prop where
  | mk {a b c d : UInt8} {w x y z : Nat} (ha : HexDigit a w) (hb : HexDigit b x)
      (hc : HexDigit c y) (hd : HexDigit d z) :
      UnitEscape (((w * 16 + x) * 16 + y) * 16 + z) [0x5C, 0x75, a, b, c, d]

-- The letters that stand for a character behind a backslash.
def letters : List (UInt8 × Char) := [
  (0x22, '"'), (0x5C, '\\'), (0x2F, '/'), (0x62, '\x08'), (0x66, '\x0C'), (0x6E, '\n'),
  (0x72, '\r'), (0x74, '\t')]

-- A character written as an escape. One beyond U+FFFF takes two units.
inductive Escape : Char → Octets → Prop where
  | letter {c : Char} {b : UInt8} (h : (b, c) ∈ letters) : Escape c [0x5C, b]
  | unit {c : Char} {w : Octets} (h : UnitEscape c.toNat w) : Escape c w
  | pair {c : Char} {high low : Octets} (beyond : 0x10000 ≤ c.toNat)
      (hhigh : UnitEscape (0xD800 + (c.toNat - 0x10000) / 0x400) high)
      (hlow : UnitEscape (0xDC00 + (c.toNat - 0x10000) % 0x400) low) : Escape c (high ++ low)

-- All but control characters, the quote and the backslash may stand for themselves.
inductive Spells : Char → Octets → Prop where
  | plain {c : Char} (h : ' ' ≤ c) (quote : c ≠ '"') (slash : c ≠ '\\') :
      Spells c (utf8EncodeChar c)
  | escape {c : Char} {w : Octets} (h : Escape c w) : Spells c w

-- What may stand between the quotes of a text.
inductive Spelled : List Char → Octets → Prop where
  | nil : Spelled [] []
  | cons {c : Char} {cs : List Char} {w ws : Octets} (first : Spells c w) (rest : Spelled cs ws) :
      Spelled (c :: cs) (w ++ ws)

def Quoted (text : String) (value : Octets) : Prop :=
  ∃ w, Spelled text.toList w ∧ value = 0x22 :: (w ++ [0x22])

-- An octet that stands for itself.
def IsPlain (b : UInt8) : Prop := 0x20 ≤ b ∧ b ≠ 0x22 ∧ b ≠ 0x5C

-- What may stand between the quotes of a text that nobody reads. Its octets need not be text,
-- and a surrogate needs no partner.
inductive Loose : Octets → Prop where
  | nil : Loose []
  | octet {b : UInt8} {w : Octets} (h : IsPlain b) (rest : Loose w) : Loose (b :: w)
  | letter {b : UInt8} {c : Char} {w : Octets} (h : (b, c) ∈ letters) (rest : Loose w) :
      Loose (0x5C :: b :: w)
  | unit {n : Nat} {u w : Octets} (h : UnitEscape n u) (rest : Loose w) : Loose (u ++ w)

end Text

section Numeral

def Digits (ds : Octets) : Prop := ds ≠ [] ∧ ∀ b ∈ ds, isDigit b = true

-- No zero stands in front of other digits.
inductive WholePart : Octets → Prop where
  | zero : WholePart [0x30]
  | digits {ds : Octets} (h : Digits ds) (nonzero : ds.head? ≠ some 0x30) : WholePart ds

inductive FractionPart : Octets → Prop where
  | nil : FractionPart []
  | digits {ds : Octets} (h : Digits ds) : FractionPart (0x2E :: ds)

inductive ExponentPart : Octets → Prop where
  | nil : ExponentPart []
  | digits {e : UInt8} {sign ds : Octets} (he : e = 0x65 ∨ e = 0x45)
      (hsign : sign = [] ∨ sign = [0x2B] ∨ sign = [0x2D]) (h : Digits ds) :
      ExponentPart (e :: (sign ++ ds))

inductive Numeric : Octets → Prop where
  | mk {sign whole fraction exponent : Octets} (hsign : sign = [] ∨ sign = [0x2D])
      (hwhole : WholePart whole) (hfraction : FractionPart fraction)
      (hexponent : ExponentPart exponent) : Numeric (sign ++ (whole ++ (fraction ++ exponent)))

end Numeral

section Value

def Frame.opening : Frame → UInt8
  | .list => 0x5B
  | .map => 0x7B

-- The words `true`, `false` and `null`.
def words : List Octets :=
  [[0x74, 0x72, 0x75, 0x65], [0x66, 0x61, 0x6C, 0x73, 0x65], [0x6E, 0x75, 0x6C, 0x6C]]

-- The parts of a document: a value, what stands between two commas of a bracket, and all
-- that stands inside a bracket with something in it.
inductive Part where
  | value
  | entry (frame : Frame)
  | entries (frame : Frame)

-- The octets of each part.
inductive Written : Part → Octets → Prop where
  | word {w : Octets} (h : w ∈ words) : Written .value w
  | number {w : Octets} (h : Numeric w) : Written .value w
  | text {w : Octets} (h : Loose w) : Written .value (0x22 :: (w ++ [0x22]))
  | empty (frame : Frame) {gap : Octets} (h : Blank gap) :
      Written .value (frame.opening :: (gap ++ [frame.closing]))
  | bracket (frame : Frame) {w : Octets} (h : Written (.entries frame) w) :
      Written .value (frame.opening :: (w ++ [frame.closing]))
  | item {w : Octets} (h : Written .value w) : Written (.entry .list) w
  | member {key before after w : Octets} (hkey : Loose key) (hbefore : Blank before)
      (hafter : Blank after) (h : Written .value w) :
      Written (.entry .map) (0x22 :: (key ++ 0x22 :: (before ++ 0x3A :: (after ++ w))))
  | last {frame : Frame} {before w after : Octets} (hbefore : Blank before)
      (h : Written (.entry frame) w) (hafter : Blank after) :
      Written (.entries frame) (before ++ (w ++ after))
  | more {frame : Frame} {before w after ws : Octets} (hbefore : Blank before)
      (h : Written (.entry frame) w) (hafter : Blank after) (rest : Written (.entries frame) ws) :
      Written (.entries frame) (before ++ (w ++ (after ++ 0x2C :: ws)))

end Value

section Object

-- A member of an object: its name, in whatever spelling, and the octets of its value.
inductive Member : String × Octets → Octets → Prop where
  | mk {name : String} {key before after value : Octets} (hkey : Spelled name.toList key)
      (hbefore : Blank before) (hafter : Blank after) :
      Member (name, value) (0x22 :: (key ++ 0x22 :: (before ++ 0x3A :: (after ++ value))))

inductive Members : List (String × Octets) → Octets → Prop where
  | last {m : String × Octets} {before w after : Octets} (hbefore : Blank before)
      (h : Member m w) (hafter : Blank after) : Members [m] (before ++ (w ++ after))
  | more {m : String × Octets} {ms : List (String × Octets)} {before w after ws : Octets}
      (hbefore : Blank before) (h : Member m w) (hafter : Blank after) (rest : Members ms ws) :
      Members (m :: ms) (before ++ (w ++ (after ++ 0x2C :: ws)))

-- A document that is one object with these members, in this order.
inductive Object : List (String × Octets) → Octets → Prop where
  | empty {before gap after : Octets} (hbefore : Blank before) (h : Blank gap)
      (hafter : Blank after) : Object [] (before ++ 0x7B :: (gap ++ 0x7D :: after))
  | members {ms : List (String × Octets)} {before w after : Octets} (hbefore : Blank before)
      (h : Members ms w) (hafter : Blank after) :
      Object ms (before ++ 0x7B :: (w ++ 0x7D :: after))

end Object

end RoutingProcessor.Json
