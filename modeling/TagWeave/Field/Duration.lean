import TagWeave.Number.Decimal
import TagWeave.Text.Blank
import TagWeave.Text.Quoted

/-!
# Durations

A duration is written as a sum of numbers with units, such as `300ms`, `1.5h` or `2h45m`. It counts
whole nanoseconds; what a fraction holds beyond them is dropped.
-/

namespace TagWeave

structure Duration where
  nanoseconds : Nat
  deriving DecidableEq, Repr

namespace Duration

/-- Nanoseconds in a second. -/
def perSecond : Nat := 1000000000

def seconds (d : Duration) : Nat := d.nanoseconds / perSecond

/-- The nanoseconds beyond whole seconds. -/
def subseconds (d : Duration) : Nat := d.nanoseconds % perSecond

/-- Why a text is no duration. -/
inductive Fault
  | negative
  | malformed
  | missingUnit
  | unknownUnit (unit : String)
  | outOfRange
  deriving DecidableEq, Repr

def Fault.message (text : String) : Fault → String
  | negative => "negative duration " ++ Text.quoted text
  | malformed => "invalid duration " ++ Text.quoted text
  | missingUnit => "missing unit in duration " ++ Text.quoted text
  | unknownUnit unit => "unknown unit " ++ Text.quoted unit ++ " in duration " ++ Text.quoted text
  | outOfRange => "duration " ++ Text.quoted text ++ " out of range"

/-- The nanoseconds in a unit. Microseconds may be written with either of two letters like mu. -/
def unitSize? (unit : String) : Option Nat :=
  match unit with
  | "ns" => some 1
  | "us" | "\u00b5s" | "\u03bcs" => some 1000
  | "ms" => some 1000000
  | "s" => some perSecond
  | "m" => some (60 * perSecond)
  | "h" => some (3600 * perSecond)
  | _ => none

/-- A number with its unit, cut off the front of a text. -/
structure Segment where
  whole : List Char
  fraction : List Char
  unit : List Char
  rest : List Char

def cutSegment (text : List Char) : Segment :=
  let whole := text.takeWhile Char.isDigit
  let after := text.dropWhile Char.isDigit
  let fraction := if after.head? = some '.' then after.tail.takeWhile Char.isDigit else []
  let after := if after.head? = some '.' then after.tail.dropWhile Char.isDigit else after
  let inUnit (c : Char) : Bool := !(c.isDigit || c == '.')
  ⟨whole, fraction, after.takeWhile inUnit, after.dropWhile inUnit⟩

theorem length_cutSegment (text : List Char) :
    (cutSegment text).whole.length + (cutSegment text).fraction.length +
      (cutSegment text).rest.length ≤ text.length := by
  have hcut (p : Char → Bool) (l : List Char) :
      (l.takeWhile p).length + (l.dropWhile p).length = l.length := by
    rw [← List.length_append, List.takeWhile_append_dropWhile]
  have hwhole := hcut Char.isDigit text
  simp only [cutSegment]
  split
  · have hfraction := hcut Char.isDigit (text.dropWhile Char.isDigit).tail
    have hunit := hcut (fun c => !(c.isDigit || c == '.'))
      ((text.dropWhile Char.isDigit).tail.dropWhile Char.isDigit)
    simp only [List.length_tail] at hfraction
    omega
  · have hunit := hcut (fun c => !(c.isDigit || c == '.')) (text.dropWhile Char.isDigit)
    simp only [List.length_nil]
    omega

/-- The nanoseconds in the whole part of a segment. -/
def Segment.wholeSize (s : Segment) (scale : Nat) : Nat := Number.valueOfDigits s.whole * scale

/-- The whole nanoseconds in the fraction of a segment. Its first eighteen digits are read. -/
def Segment.fractionSize (s : Segment) (scale : Nat) : Nat :=
  let digits := s.fraction.take 18
  Number.valueOfDigits digits * scale / Nat.pow 10 digits.length

/-- Sums are kept below this. -/
def sumLimit : Nat := Nat.pow 2 128

/-- Adds the segments of a text to `total` nanoseconds. -/
def addSegments (total : Nat) (text : List Char) : Except Fault Nat :=
  if text.isEmpty then .ok total
  else
    let s := cutSegment text
    if h : s.whole = [] ∧ s.fraction = [] then .error .malformed
    else
      have : (cutSegment text).rest.length < text.length := by
        have := length_cutSegment text
        have hs : 0 < s.whole.length ∨ 0 < s.fraction.length := by
          simpa only [List.length_pos_iff, ne_eq, Decidable.not_and_iff_not_or_not] using h
        simp only [s] at hs
        omega
      match unitSize? (.ofList s.unit) with
      | none => .error (if s.unit.isEmpty then .missingUnit else .unknownUnit (.ofList s.unit))
      | some scale =>
        let total := total + s.wholeSize scale
        if sumLimit ≤ total then .error .outOfRange
        else
          let total := total + s.fractionSize scale
          if sumLimit ≤ total then .error .outOfRange else addSegments total s.rest
termination_by text.length

/-- Seconds are kept below this. -/
def secondsLimit : Nat := Nat.pow 2 64

/-- Reads a duration without its sign. A lone zero needs no unit. -/
def readUnsigned (text : List Char) : Except Fault Duration :=
  if text = ['0'] then .ok ⟨0⟩
  else if text.isEmpty then .error .malformed
  else
    match addSegments 0 text with
    | .error e => .error e
    | .ok total => if total / perSecond < secondsLimit then .ok ⟨total⟩ else .error .outOfRange

/-- Reads a duration, blanks around it aside. Below zero only `-0` is read. -/
def parse (text : String) : Except Fault Duration :=
  match Text.trim text.toList with
  | '+' :: rest => readUnsigned rest
  | '-' :: rest => if rest = ['0'] then .ok ⟨0⟩ else .error .negative
  | rest => readUnsigned rest

end Duration

end TagWeave
