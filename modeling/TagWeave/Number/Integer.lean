/-!
# Integers written in decimal

An optional sign and digits, read from the left; the first thing that goes wrong is reported.
-/

namespace TagWeave.Number

/-- Why a text is no integer of a given range. -/
inductive IntegerFault
  | empty
  | invalidDigit
  | tooLarge
  | tooSmall
  deriving DecidableEq, Repr

def IntegerFault.message : IntegerFault → String
  | .empty => "cannot parse integer from empty string"
  | .invalidDigit => "invalid digit found in string"
  | .tooLarge => "number too large to fit in target type"
  | .tooSmall => "number too small to fit in target type"

def digit? (c : Char) : Option Nat :=
  if c.isDigit then some (c.toNat - 48) else none

/-- The number that the digits continue, `value` having been read before them. -/
def readDigits (negative : Bool) (lowest highest : Int) (value : Int) :
    List Char → Except IntegerFault Int
  | [] => .ok value
  | c :: rest =>
    match digit? c with
    | none => .error .invalidDigit
    | some d =>
      let value := if negative then value * 10 - d else value * 10 + d
      if value < lowest then .error .tooSmall
      else if highest < value then .error .tooLarge
      else readDigits negative lowest highest value rest

/-- Reads an integer between the bounds. A minus sign is read only where negative numbers are in
range. -/
def readInteger (lowest highest : Int) (text : String) : Except IntegerFault Int :=
  match text.toList with
  | [] => .error .empty
  | ['+'] | ['-'] => .error .invalidDigit
  | '+' :: digits => readDigits false lowest highest 0 digits
  | '-' :: digits =>
    if lowest < 0 then readDigits true lowest highest 0 digits else .error .invalidDigit
  | digits => readDigits false lowest highest 0 digits

/-- Reads a signed number of 64 bits. -/
def readInt64 (text : String) : Except IntegerFault Int :=
  readInteger (-Int.pow 2 63) (Int.pow 2 63 - 1) text

/-- Reads a number of 64 bits without sign. -/
def readNat64 (text : String) : Except IntegerFault Nat :=
  (readInteger 0 (Int.pow 2 64 - 1) text).map Int.toNat

end TagWeave.Number
