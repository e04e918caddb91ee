import MetricCheck.Double.Basic

/-!
This module contains the order of numbers. Integers of any size and binary64 numbers are put on one
line, where they are compared by their exact values; a `nan` has no place on it.
-/

namespace MetricCheck

inductive Number where
  | int (value : Int)
  | double (value : Double)
  deriving DecidableEq

namespace Number

/--
A place on the line: `side` is `-1` for negative infinity, `1` for infinity and `0` in between,
where `quanta` tells the exact value.
-/
structure Place where
  side : Int
  quanta : Int
  deriving DecidableEq

namespace Place

def before (a b : Place) : Bool :=
  a.side < b.side || (a.side == b.side && a.quanta < b.quanta)

theorem before_iff {a b : Place} :
    a.before b = true ↔ a.side < b.side ∨ (a.side = b.side ∧ a.quanta < b.quanta) := by
  simp [before]

end Place

def place? : Number → Option Place
  | .int n => some ⟨0, n * Double.one⟩
  | .double (.finite negative magnitude) => some ⟨0, Double.signedQuanta negative magnitude⟩
  | .double (.infinite negative) => some ⟨if negative then -1 else 1, 0⟩
  | .double .nan => none

def same (a b : Number) : Bool :=
  match a.place?, b.place? with
  | some p, some q => p == q
  | _, _ => false

def less (a b : Number) : Bool :=
  match a.place?, b.place? with
  | some p, some q => p.before q
  | _, _ => false

def toDouble? : Number → Option Double
  | .double d => some d
  | .int n =>
    match Double.ofInt n with
    | .infinite _ => none
    | d => some d

end Number

end MetricCheck
