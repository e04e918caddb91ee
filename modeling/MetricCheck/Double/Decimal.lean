import MetricCheck.Double.Basic
import MetricCheck.Text.Blank
import MetricCheck.Text.Digit

/-!
This module contains the reading of numbers from decimal text. A numeral is read exactly and rounded
once.
-/

namespace MetricCheck

namespace Double

def digitCount (n : Nat) : Nat :=
  (Nat.toDigits 10 n).length

-- The limit is a variable, so that its power of ten is never computed.
theorem not_digitCount_le {n digits limit : Nat} (hlimit : 0 < limit) (h : limit ≤ digits)
    (hn : n = Nat.pow 10 digits) : ¬digitCount n ≤ limit := by
  unfold digitCount
  rw [Nat.length_toDigits_le_iff (by decide) hlimit, hn, Nat.not_lt]
  exact Nat.pow_le_pow_right (by decide) h

/--
The number nearest to `coefficient * 10 ^ exponent`. The two early answers hold because the value
lies below `10 ^ (digitCount coefficient + exponent)` and at most ten times under that; they keep
the powers of ten small.
-/
def ofDecimal (negative : Bool) (coefficient : Nat) (exponent : Int) : Double :=
  let top := digitCount coefficient + exponent
  if coefficient = 0 then ofQuotient negative 0 1
  else if 310 < top then .infinite negative
  else if top < -330 then ofQuotient negative 0 1
  else if 0 ≤ exponent then ofQuotient negative (coefficient * Nat.pow 10 exponent.toNat * one) 1
  else ofQuotient negative (coefficient * one) (Nat.pow 10 (-exponent).toNat)

end Double

namespace Numeral

def digitsValue (digits : List Char) : Nat :=
  digits.foldl (fun n c => 10 * n + (c.toNat - '0'.toNat)) 0

def spanDigits (cs : List Char) : List Char × List Char :=
  (cs.takeWhile Char.isDigit, cs.dropWhile Char.isDigit)

def splitSign : List Char → Bool × List Char
  | '-' :: rest => (true, rest)
  | '+' :: rest => (false, rest)
  | rest => (false, rest)

def dropUnderscores? (cs : List Char) : Option (List Char) :=
  go none cs
where
  go : Option Char → List Char → Option (List Char)
    | _, [] => some []
    | before, '_' :: rest =>
      match before, rest with
      | some b, a :: _ => if b.isDigit && a.isDigit then go (some '_') rest else none
      | _, _ => none
    | _, c :: rest => (go (some c) rest).map (c :: ·)

def exponent? : List Char → Option Int
  | [] => some 0
  | c :: rest =>
    let (negative, digits) := splitSign rest
    if (c = 'e' ∨ c = 'E') ∧ digits ≠ [] ∧ digits.all Char.isDigit then
      some (if negative then -(digitsValue digits : Int) else digitsValue digits)
    else none

def unsigned? (negative : Bool) (cs : List Char) : Option Double :=
  let (whole, rest) := spanDigits cs
  let (fraction, rest) :=
    match rest with
    | '.' :: rest => spanDigits rest
    | rest => ([], rest)
  if whole = [] ∧ fraction = [] then none
  else
    (exponent? rest).map fun exponent =>
      .ofDecimal negative (digitsValue (whole ++ fraction)) (exponent - fraction.length)

def double? (cs : List Char) : Option Double := do
  let cs ← dropUnderscores? cs
  let (negative, body) := splitSign cs
  let name := String.ofList (body.map Char.toLower)
  if name = "inf" ∨ name = "infinity" then some (.infinite negative)
  else if name = "nan" then some .nan
  else unsigned? negative body

end Numeral

namespace Double

/--
The number that a text names in the digits of any script, blanks around it aside. The ASCII
separators are no blanks here.
-/
def ofText? (s : String) : Option Double :=
  Numeral.double? ((Text.trimBy Text.isUnicodeBlank s.toList).map Text.asciiDigit)

def ofBytes? (bytes : List UInt8) : Option Double :=
  if bytes.all (· < 0x80) then
    Numeral.double? (Text.trimBy Text.isAsciiBlank (bytes.map Char.ofUInt8))
  else none

end Double

end MetricCheck
