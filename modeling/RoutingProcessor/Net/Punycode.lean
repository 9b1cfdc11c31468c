import RoutingProcessor.Text.Ascii

namespace RoutingProcessor.Net.Punycode

open Text

-- The state of a decoder: the next code point, the bias, and the text so far.
structure State where
  codePoint : Nat
  bias : Nat
  index : Nat
  output : List Char

def digit? (c : Char) : Option Nat :=
  if isDigit c then some (c.toNat - '0'.toNat + 26)
  else if 'a' ≤ c && c ≤ 'z' then some (c.toNat - 'a'.toNat)
  else if 'A' ≤ c && c ≤ 'Z' then some (c.toNat - 'A'.toNat)
  else none

-- Divides until the remaining delta is small. Every round divides by 35, so twenty
-- rounds are enough for any word.
def shrink : (rounds delta k : Nat) → Nat
  | 0, _, k => k
  | rounds + 1, delta, k => if delta > 455 then shrink rounds (delta / 35) (k + 36) else k + 36 * delta / (delta + 38)

def adapt (delta count : Nat) (isFirst : Bool) : Nat :=
  let delta := if isFirst then delta / 700 else delta / 2
  shrink 20 (delta + delta / count) 0

-- From where on a digit ends a number.
def threshold (bias k : Nat) : Nat :=
  if k ≤ bias then 1 else if k ≥ bias + 26 then 26 else k - bias

-- Reads one number with digits of growing weight, and what follows it.
def number? (bias : Nat) : (value weight k : Nat) → List Char → Option (Nat × List Char)
  | _, _, _, [] => none
  | value, weight, k, c :: rest => do
    let d ← digit? c
    let value := value + d * weight
    if value ≥ UInt32.size then none
    else if d < threshold bias k then some (value, rest)
    else number? bias value (weight * (36 - threshold bias k)) (k + 36) rest

theorem length_number?_lt {bias value weight k : Nat} {cs rest : List Char} {n : Nat}
    (h : number? bias value weight k cs = some (n, rest)) : rest.length < cs.length := by
  induction cs generalizing value weight k with
  | nil => simp [number?] at h
  | cons c cs ih =>
    simp only [number?, Option.bind_eq_bind] at h
    cases hd : digit? c with
    | none => simp [hd] at h
    | some d =>
      simp only [hd, Option.bind_some] at h
      split at h
      · cases h
      · split at h
        · cases h; simp
        · exact Nat.lt_succ_of_lt (ih h)

def insertAll (state : State) (cs : List Char) : Option (List Char) :=
  match cs with
  | [] => some state.output
  | c :: rest =>
    match _h : number? state.bias state.index 1 36 (c :: rest) with
    | none => none
    | some (index, more) =>
      let count := state.output.length + 1
      let codePoint := state.codePoint + index / count
      let place := index % count
      if codePoint.isValidChar then
        insertAll
          { codePoint
            bias := adapt (index - state.index) count (state.index = 0)
            index := place + 1
            output := state.output.take place ++ Char.ofNat codePoint :: state.output.drop place }
          more
      else none
termination_by cs.length
decreasing_by exact length_number?_lt ‹_›

-- The text that an encoded label stands for. Its ASCII characters come first, up to
-- the last hyphen.
def decode? (label : List Char) : Option (List Char) :=
  let back := label.reverse.takeWhile (· ≠ '-')
  let front := (label.reverse.dropWhile (· ≠ '-')).drop 1
  insertAll ⟨128, 72, 0, front.reverse⟩ back.reverse

end RoutingProcessor.Net.Punycode
