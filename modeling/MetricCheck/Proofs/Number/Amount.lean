import Mathlib.Algebra.Order.Field.Rat
import Mathlib.Algebra.Order.Ring.Cast
import Mathlib.Order.WithBot
import MetricCheck.Predicate.Acceptance

/-!
This module contains the amounts of numbers: the rationals that they stand for exactly, and an
infinity at either end. An integer and a binary64 number are compared by their amounts, so neither
of them is rounded for the other, and what is known of a linear order holds of numbers too.
-/

namespace MetricCheck

theorem Double.cast_one_pos : (0 : ℚ) < Double.one := by
  rw [Nat.cast_pos]
  decide

def Number.amount? : Number → Option (WithBot (WithTop ℚ))
  | .int n => some ((n : ℚ) : WithTop ℚ)
  | .double (.finite negative magnitude) =>
    some ((Double.signedQuanta negative magnitude / Double.one : ℚ) : WithTop ℚ)
  | .double (.infinite negative) => some (if negative then ⊥ else ⊤)
  | .double .nan => none

def Value.amount? (v : Value) : Option (WithBot (WithTop ℚ)) :=
  v.number?.bind Number.amount?

def OrderRelation.Compares (relation : OrderRelation) (bound x : WithBot (WithTop ℚ)) : Prop :=
  match relation with
  | greater => bound < x
  | greaterOrEqual => bound ≤ x
  | less => x < bound
  | lessOrEqual => x ≤ bound

instance (relation : OrderRelation) (bound x : WithBot (WithTop ℚ)) :
    Decidable (relation.Compares bound x) :=
  match relation with
  | .greater => inferInstanceAs (Decidable (bound < x))
  | .greaterOrEqual => inferInstanceAs (Decidable (bound ≤ x))
  | .less => inferInstanceAs (Decidable (x < bound))
  | .lessOrEqual => inferInstanceAs (Decidable (x ≤ bound))

namespace Number

inductive Place.Holds : Place → WithBot (WithTop ℚ) → Prop
  | lowest : Holds ⟨-1, 0⟩ ⊥
  | within (quanta : Int) : Holds ⟨0, quanta⟩ ((quanta / Double.one : ℚ) : WithTop ℚ)
  | highest : Holds ⟨1, 0⟩ ⊤

section Place

variable {p q : Place} {x y : WithBot (WithTop ℚ)}

theorem Place.Holds.before_iff (hp : p.Holds x) (hq : q.Holds y) :
    p.before q = true ↔ x < y := by
  rw [Place.before_iff]
  cases hp with
  | lowest => cases hq <;> simp
  | highest => cases hq <;> simp
  | within m =>
    cases hq with
    | lowest => simp
    | highest => simpa using WithBot.coe_lt_coe.mpr (WithTop.coe_lt_top _)
    | within n => simp [div_lt_div_iff_of_pos_right Double.cast_one_pos]

theorem Place.Holds.eq_iff (hp : p.Holds x) (hq : q.Holds y) : p = q ↔ x = y := by
  cases hp with
  | lowest => cases hq <;> simp
  | highest => cases hq <;> simp
  | within m =>
    cases hq with
    | lowest => simp
    | highest => simp
    | within n => simp [div_left_inj' Double.cast_one_pos.ne']

end Place

variable {a b : Number} {x y : WithBot (WithTop ℚ)}

theorem exists_place (h : a.amount? = some x) : ∃ p, a.place? = some p ∧ p.Holds x := by
  cases a with
  | int n =>
    cases h
    refine ⟨_, rfl, ?_⟩
    have hplace := Place.Holds.within (n * Double.one)
    rwa [Int.cast_mul, Int.cast_natCast, mul_div_cancel_right₀ _ Double.cast_one_pos.ne'] at hplace
  | double d =>
    cases d with
    | nan => contradiction
    | infinite negative =>
      cases h
      cases negative with
      | false => exact ⟨_, rfl, .highest⟩
      | true => exact ⟨_, rfl, .lowest⟩
    | finite negative magnitude =>
      cases h
      exact ⟨_, rfl, .within _⟩

theorem place?_eq_none (h : a.amount? = none) : a.place? = none := by
  unfold amount? at h
  split at h
  . contradiction
  . contradiction
  . contradiction
  . rfl

theorem less_iff (ha : a.amount? = some x) (hb : b.amount? = some y) :
    a.less b = true ↔ x < y := by
  obtain ⟨p, hp, hpx⟩ := exists_place ha
  obtain ⟨q, hq, hqy⟩ := exists_place hb
  rw [less, hp, hq]
  apply hpx.before_iff hqy

theorem less_eq_false_iff (ha : a.amount? = some x) (hb : b.amount? = some y) :
    a.less b = false ↔ y ≤ x := by
  rw [Bool.eq_false_iff, Ne, less_iff ha hb, not_lt]

theorem same_iff (ha : a.amount? = some x) (hb : b.amount? = some y) :
    a.same b = true ↔ x = y := by
  obtain ⟨p, hp, hpx⟩ := exists_place ha
  obtain ⟨q, hq, hqy⟩ := exists_place hb
  rw [same, hp, hq, beq_iff_eq]
  apply hpx.eq_iff hqy

theorem less_eq_false (h : a.amount? = none ∨ b.amount? = none) : a.less b = false := by
  unfold less
  cases h with
  | inl ha => rw [place?_eq_none ha]
  | inr hb =>
    rw [place?_eq_none hb]
    cases a.place? <;> rfl

theorem same_eq_false (h : a.amount? = none ∨ b.amount? = none) : a.same b = false := by
  unfold same
  cases h with
  | inl ha => rw [place?_eq_none ha]
  | inr hb =>
    rw [place?_eq_none hb]
    cases a.place? <;> rfl

end Number

namespace OrderRelation

variable {bound n : Number} {b x : WithBot (WithTop ℚ)}

theorem holds_eq (relation : OrderRelation) (hn : n.amount? = some x)
    (hbound : bound.amount? = some b) :
    relation.holds bound n = decide (relation.Compares b x) := by
  rw [Bool.eq_iff_iff, decide_eq_true_eq]
  cases relation with
  | greater => exact Number.less_iff hbound hn
  | greaterOrEqual =>
    rw [holds, Bool.or_eq_true, Number.less_iff hbound hn, Number.same_iff hbound hn]
    apply le_iff_lt_or_eq.symm
  | less => exact Number.less_iff hn hbound
  | lessOrEqual =>
    rw [holds, Bool.or_eq_true, Number.less_iff hn hbound, Number.same_iff hn hbound]
    apply le_iff_lt_or_eq.symm

theorem holds_eq_false (relation : OrderRelation) (h : n.amount? = none ∨ bound.amount? = none) :
    relation.holds bound n = false := by
  cases relation with
  | greater => exact Number.less_eq_false h.symm
  | greaterOrEqual =>
    rw [holds, Number.less_eq_false h.symm, Number.same_eq_false h.symm, Bool.or_false]
  | less => exact Number.less_eq_false h
  | lessOrEqual =>
    rw [holds, Number.less_eq_false h, Number.same_eq_false h, Bool.or_false]

theorem exists_amounts_of_holds {relation : OrderRelation} (h : relation.holds bound n = true) :
    ∃ x b, n.amount? = some x ∧ bound.amount? = some b ∧ relation.Compares b x := by
  cases hn : n.amount? with
  | none =>
    rw [holds_eq_false relation (.inl hn)] at h
    contradiction
  | some x =>
    cases hbound : bound.amount? with
    | none =>
      rw [holds_eq_false relation (.inr hbound)] at h
      contradiction
    | some b =>
      rw [holds_eq relation hn hbound, decide_eq_true_eq] at h
      exact ⟨x, b, rfl, rfl, h⟩

theorem holds_lessOrEqual_trans {larger : Number} (h : lessOrEqual.holds bound n = true)
    (hlarger : lessOrEqual.holds larger bound = true) : lessOrEqual.holds larger n = true := by
  obtain ⟨x, b, hx, hb, hle⟩ := exists_amounts_of_holds h
  obtain ⟨b', y, hb', hy, hle'⟩ := exists_amounts_of_holds hlarger
  rw [hb, Option.some.injEq] at hb'
  subst hb'
  rw [holds_eq lessOrEqual hx hy, decide_eq_true_eq]
  apply le_trans hle hle'

end OrderRelation

namespace Value

variable {v w : Value} {x y : WithBot (WithTop ℚ)}

theorem exists_number_of_amount? (h : v.amount? = some x) :
    ∃ n, v.number? = some n ∧ n.amount? = some x :=
  Option.bind_eq_some_iff.mp h

theorem amount?_of_number {n : Number} (h : v.number? = some n) : v.amount? = n.amount? := by
  rw [amount?, h]
  rfl

theorem amount?_eq_none_iff : v.amount? = none ↔ v.number? = none ∨ v = .double .nan := by
  cases v with
  | double d => cases d <;> simp [amount?, number?, Number.amount?]
  | _ => simp [amount?, number?, Number.amount?]

end Value

end MetricCheck
