/-!
This module contains binary64 numbers with exact arithmetic. A finite number is a sign and a count
of quanta, the quantum being `2 ^ -1074`, so every step but the last rounding is done on natural
numbers. The main statement is that rounding a quotient always gives a representable count.
-/

namespace MetricCheck

namespace Double

def precision : Nat := 53

def one : Nat := 1 <<< 1074

def limit : Nat := 1 <<< 2098

def Representable (quanta : Nat) : Prop :=
  ∃ significand shift, significand < 1 <<< precision ∧ quanta = significand <<< shift

def roundHalfEven (num den : Nat) : Nat :=
  let quotient := num / den
  let rest := num % den
  if 2 * rest < den ∨ (2 * rest = den ∧ quotient % 2 = 0) then quotient else quotient + 1

theorem roundHalfEven_le (num den : Nat) : roundHalfEven num den ≤ num / den + 1 := by
  simp only [roundHalfEven]
  split <;> omega

def excess (n : Nat) : Nat :=
  n.log2 + 1 - precision

theorem shiftRight_excess_lt (n : Nat) : n >>> excess n < 1 <<< precision := by
  have h := Nat.lt_log2_self (n := n)
  rw [Nat.shiftRight_eq_div_pow, Nat.one_shiftLeft, Nat.div_lt_iff_lt_mul (Nat.two_pow_pos _),
    ← Nat.pow_add]
  apply Nat.lt_of_lt_of_le h
  apply Nat.pow_le_pow_right (by omega)
  unfold excess precision
  omega

def roundQuotient (num den : Nat) : Nat :=
  let shift := excess (num / den)
  roundHalfEven num (den <<< shift) <<< shift

theorem representable_roundQuotient (num den : Nat) : Representable (roundQuotient num den) := by
  let shift := excess (num / den)
  have hle : roundHalfEven num (den <<< shift) ≤ 1 <<< precision := by
    have hround := roundHalfEven_le num (den <<< shift)
    have hlt : (num / den) >>> shift < 1 <<< precision := shiftRight_excess_lt (num / den)
    rw [Nat.shiftRight_eq_div_pow, Nat.div_div_eq_div_mul, ← Nat.shiftLeft_eq] at hlt
    omega
  by_cases heq : roundHalfEven num (den <<< shift) = 1 <<< precision
  . refine ⟨1, precision + shift, by decide, ?_⟩
    change roundHalfEven num (den <<< shift) <<< shift = _
    rw [heq, Nat.shiftLeft_add]
  . exact ⟨roundHalfEven num (den <<< shift), shift, by omega, rfl⟩

structure Magnitude where
  quanta : Nat
  lt_limit : quanta < limit
  representable : Representable quanta
  deriving DecidableEq

end Double

/--
A binary64 number. There is one `nan`, and zero has a sign.
-/
inductive Double where
  | nan
  | infinite (negative : Bool)
  | finite (negative : Bool) (magnitude : Double.Magnitude)
  deriving DecidableEq

namespace Double

def ofQuotient (negative : Bool) (num den : Nat) : Double :=
  if h : roundQuotient num den < limit then
    .finite negative ⟨roundQuotient num den, h, representable_roundQuotient num den⟩
  else
    .infinite negative

def ofInt (n : Int) : Double :=
  ofQuotient (n < 0) (n.natAbs * one) 1

def zero : Double := ofInt 0

instance : Inhabited Double := ⟨zero⟩

def isInfinite : Double → Bool
  | .infinite _ => true
  | _ => false

def signedQuanta (negative : Bool) (magnitude : Magnitude) : Int :=
  if negative then -(magnitude.quanta : Int) else magnitude.quanta

def distance : Double → Double → Double
  | .finite s m, .finite t n => ofQuotient false (signedQuanta s m - signedQuanta t n).natAbs 1
  -- Two infinities of one sign have no difference.
  | .infinite s, .infinite t => if s = t then .nan else .infinite false
  | .infinite _, .finite _ _ => .infinite false
  | .finite _ _, .infinite _ => .infinite false
  | .nan, _ => .nan
  | _, .nan => .nan

theorem distance_comm (a b : Double) : distance a b = distance b a := by
  cases a <;> cases b <;> simp only [distance]
  case infinite.infinite s t => simp only [eq_comm]
  case finite.finite s m t n => rw [← Int.natAbs_neg, Int.neg_sub]

end Double

end MetricCheck
