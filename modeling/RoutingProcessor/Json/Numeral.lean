import RoutingProcessor.Json.Number
import RoutingProcessor.Json.Octet

namespace RoutingProcessor.Json

-- How far a number has been read.
inductive Numeral where
  | minus
  | zero
  | digits
  | point
  | fraction
  | exponent
  | exponentSign
  | exponentDigits
deriving DecidableEq

namespace Numeral

-- What an octet does to a number.
inductive Step where
  | goes (phase : Numeral)
  | ends
  | fails

def begin? (b : UInt8) : Option Numeral :=
  if b = 0x2D then some minus
  else if b = 0x30 then some zero
  else if isDigit b then some digits
  else none

-- A point or an exponent may follow the whole part.
def afterWhole (b : UInt8) : Step :=
  if b = 0x2E then .goes point
  else if b = 0x65 || b = 0x45 then .goes exponent
  else .ends

def next : Numeral → UInt8 → Step
  | minus, b => if b = 0x30 then .goes zero else if isDigit b then .goes digits else .fails
  | zero, b => if isDigit b then .fails else afterWhole b
  | digits, b => if isDigit b then .goes digits else afterWhole b
  | point, b => if isDigit b then .goes fraction else .fails
  | fraction, b =>
    if isDigit b then .goes fraction
    else if b = 0x65 || b = 0x45 then .goes exponent
    else .ends
  | exponent, b =>
    if isDigit b then .goes exponentDigits
    else if b = 0x2B || b = 0x2D then .goes exponentSign
    else .fails
  | exponentSign, b => if isDigit b then .goes exponentDigits else .fails
  | exponentDigits, b => if isDigit b then .goes exponentDigits else .ends

-- Whether the number may end here.
def isWhole : Numeral → Bool
  | zero | digits | fraction | exponentDigits => true
  | _ => false

end Numeral

-- The parts of a number as they are written.
structure NumeralText where
  negative : Bool
  digits : List Nat
  fraction : List Nat
  exponentNegative : Bool
  exponent : Option (List Nat)

namespace NumeralText

def empty : NumeralText := ⟨false, [], [], false, none⟩

-- Takes up an octet that has led to `phase`.
def add (text : NumeralText) (b : UInt8) : Numeral → NumeralText
  | .minus => { text with negative := true }
  | .zero | .digits => { text with digits := text.digits ++ [digitValue b] }
  | .point => text
  | .fraction => { text with fraction := text.fraction ++ [digitValue b] }
  | .exponent => { text with exponent := some [] }
  | .exponentSign => { text with exponentNegative := b = 0x2D }
  | .exponentDigits => { text with exponent := some (text.exponent.getD [] ++ [digitValue b]) }

-- Nothing stands for a number that is too large.
def value? (text : NumeralText) : Option Number :=
  match text.fraction, text.exponent with
  | [], none => some (Number.ofWhole text.negative text.digits)
  | fraction, exponent =>
    let n : Nat := (exponent.getD []).foldl (fun n d => n * 10 + d) 0
    Number.ofDecimal? text.negative text.digits fraction (if text.exponentNegative then -(n : Int) else n)

end NumeralText

end RoutingProcessor.Json
