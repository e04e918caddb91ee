import MetricCheck.Double.Decimal

/-!
This module contains the writing of numbers as decimal text. A number is written with the fewest
digits that read back as the same number; among those the nearest digits are taken.
-/

namespace MetricCheck

namespace Double

/--
A row of decimal digits and the place of the point: the value is `0.digits * 10 ^ point`.
-/
structure DecimalForm where
  digits : List Char
  point : Int

namespace DecimalForm

def ofCoefficient (coefficient : Nat) (exponent : Int) : DecimalForm :=
  let digits := Nat.toDigits 10 coefficient
  ⟨(digits.reverse.dropWhile (· == '0')).reverse, digits.length + exponent⟩

def leastPositional : Int := -4

def greatestPositional : Int := 15

def exponentText (exponent : Int) : List Char :=
  let digits := Nat.toDigits 10 exponent.natAbs
  'e' :: (if exponent < 0 then '-' else '+') ::
    (List.replicate (2 - digits.length) '0' ++ digits)

def write (form : DecimalForm) : List Char :=
  let ⟨digits, point⟩ := form
  let exponent := point - 1
  if leastPositional ≤ exponent ∧ exponent ≤ greatestPositional then
    if point ≤ 0 then
      '0' :: '.' :: (List.replicate (-point).toNat '0' ++ digits)
    else
      let whole := digits.take point.toNat
      let fraction := digits.drop point.toNat
      whole ++ List.replicate (point.toNat - whole.length) '0' ++
        '.' :: (if fraction = [] then ['0'] else fraction)
  else
    match digits with
    | [] => exponentText exponent
    | [d] => d :: exponentText exponent
    | d :: rest => d :: '.' :: (rest ++ exponentText exponent)

end DecimalForm

/--
The exponent `k` with `10 ^ (k - 1) ≤ x < 10 ^ k` for the number `x` of so many quanta.
-/
def decimalExponent (quanta : Nat) : Int :=
  digitCount (quanta * Nat.pow 10 330 / one) - 330

def tenPower (exponent : Int) : Nat × Nat :=
  if 0 ≤ exponent then (Nat.pow 10 exponent.toNat * one, 1) else (one, Nat.pow 10 (-exponent).toNat)

/--
The multiples of `10 ^ exponent` on either side of a count of quanta, the nearer one first, a tie
going to the even multiple.
-/
def neighbours (quanta : Nat) (exponent : Int) : List Nat :=
  let (num, den) := tenPower exponent
  let below := quanta * den / num
  let rest := quanta * den % num
  if 2 * rest < num ∨ (2 * rest = num ∧ below % 2 = 0) then [below, below + 1]
  else [below + 1, below]

def readsBack (quanta : Nat) (exponent : Int) (coefficient : Nat) : Bool :=
  let (num, den) := tenPower exponent
  roundQuotient (coefficient * num) den == quanta

def shortest (quanta : Nat) : DecimalForm :=
  -- Seventeen digits are always enough.
  go 17 1
where
  go : Nat → Nat → DecimalForm
    | 0, _ => ⟨[], 0⟩
    | fuel + 1, digits =>
      let exponent := decimalExponent quanta - digits
      match (neighbours quanta exponent).find? (readsBack quanta exponent) with
      | some coefficient => .ofCoefficient coefficient exponent
      | none => go fuel (digits + 1)

def write : Double → String
  | .nan => "nan"
  | .infinite negative => if negative then "-inf" else "inf"
  | .finite negative magnitude =>
    let body :=
      if magnitude.quanta = 0 then ['0', '.', '0'] else (shortest magnitude.quanta).write
    String.ofList (if negative then '-' :: body else body)

def writePart (d : Double) : String :=
  let text := d.write
  if text.endsWith ".0" then String.ofList (text.toList.take (text.length - 2)) else text

end Double

end MetricCheck
