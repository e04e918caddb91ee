import Mathlib.Order.Basic
import MetricCheck.Predicate.Basic
import MetricCheck.Proofs.Number.Amount

/-!
This module contains the laws of the order predicates. They go by the amounts of the bound and of
the item, whichever of the two types of numbers these are of, so together with equality they form a
linear order. A `nan` has no place in it, and neither has a value that is no number.
-/

namespace MetricCheck

namespace Value

variable {v w : Value} {x y : WithBot (WithTop ℚ)}

theorem same_of_number {m n : Number} (hv : v.number? = some m) (hw : w.number? = some n) :
    v.same w = m.same n := by
  cases v <;> cases hv
  all_goals
    cases w <;> cases hw
    all_goals simp [same, parts?, real?, number?, Number.same, Number.place?]

theorem same_iff_amount (hv : v.amount? = some x) (hw : w.amount? = some y) :
    v.same w = true ↔ x = y := by
  obtain ⟨m, hm, hmx⟩ := exists_number_of_amount? hv
  obtain ⟨n, hn, hny⟩ := exists_number_of_amount? hw
  rw [same_of_number hm hn]
  apply Number.same_iff hmx hny

end Value

namespace Predicate

structure AllCompare (bound : Value) (compares : OrderRelation → Predicate) (equals : Predicate) :
    Prop where
  order : ∀ relation, order relation bound = .ok (compares relation)
  equality : equality bound = .ok equals

variable {bound item : Value} {relation : OrderRelation} {p equals : Predicate}
  {compares : OrderRelation → Predicate} {b x : WithBot (WithTop ℚ)}

theorem exists_number_of_order (h : order relation bound = .ok p) :
    ∃ n, bound.number? = some n ∧ p = .ordered relation n := by
  unfold order at h
  split at h
  . next n hn =>
    cases h
    exact ⟨n, hn, rfl⟩
  . contradiction

theorem exists_order_of_amount (h : bound.amount? = some b) (relation : OrderRelation) :
    ∃ p, order relation bound = .ok p := by
  obtain ⟨n, hn, -⟩ := Value.exists_number_of_amount? h
  unfold order
  rw [hn]
  exact ⟨_, rfl⟩

theorem accepts_order (h : order relation bound = .ok p) (hitem : item.amount? = some x)
    (hbound : bound.amount? = some b) :
    p.accepts item = .ok (decide (relation.Compares b x)) := by
  obtain ⟨n, hn, rfl⟩ := exists_number_of_order h
  obtain ⟨m, hm, hmx⟩ := Value.exists_number_of_amount? hitem
  rw [Value.amount?_of_number hn] at hbound
  rw [accepts, hm]
  apply congrArg Except.ok
  apply relation.holds_eq hmx hbound

theorem accepts_order_of_no_amount (h : order relation bound = .ok p)
    (hnone : item.amount? = none ∨ bound.amount? = none) : p.accepts item = .ok false := by
  obtain ⟨n, hn, rfl⟩ := exists_number_of_order h
  rw [accepts]
  cases hm : item.number? with
  | none => rfl
  | some m =>
    rw [Value.amount?_of_number hm, Value.amount?_of_number hn] at hnone
    apply congrArg Except.ok
    apply relation.holds_eq_false hnone

theorem exists_amounts_of_accepts (h : order relation bound = .ok p)
    (haccepts : p.accepts item = .ok true) :
    ∃ x b, item.amount? = some x ∧ bound.amount? = some b ∧ relation.Compares b x := by
  obtain ⟨n, hn, rfl⟩ := exists_number_of_order h
  rw [accepts] at haccepts
  cases hm : item.number? with
  | none => simp [hm] at haccepts
  | some m =>
    rw [hm] at haccepts
    rw [Value.amount?_of_number hm, Value.amount?_of_number hn]
    apply OrderRelation.exists_amounts_of_holds
    apply Except.ok.inj haccepts

theorem accepts_equality (h : equality bound = .ok p) (hitem : item.amount? = some x)
    (hbound : bound.amount? = some b) : p.accepts item = .ok (decide (x = b)) := by
  unfold equality at h
  split at h
  . contradiction
  . cases h
    rw [accepts, Except.ok.injEq, Bool.eq_iff_iff, decide_eq_true_eq]
    apply Value.same_iff_amount hitem hbound

theorem accepts_anyOf_pair {q : Predicate} {left right : Bool} (hp : p.accepts item = .ok left)
    (hq : q.accepts item = .ok right) : (anyOf [p, q]).accepts item = .ok (left || right) := by
  rw [accepts_anyOf, anyAccepts, hp]
  cases left with
  | true => rfl
  | false =>
    rw [anyAccepts, hq]
    cases right <;> rfl

theorem AllCompare.existsUnique_accepts (h : AllCompare bound compares equals)
    (hitem : item.amount? = some x) (hbound : bound.amount? = some b) :
    ∃! p, p ∈ [compares .greater, compares .less, equals] ∧ p.accepts item = .ok true := by
  have hgreater := accepts_order (h.order .greater) hitem hbound
  have hless := accepts_order (h.order .less) hitem hbound
  have hequals := accepts_equality h.equality hitem hbound
  simp only [OrderRelation.Compares] at hgreater hless
  rcases lt_trichotomy b x with hlt | heq | hgt
  . refine ⟨compares .greater, ?_, ?_⟩
    . simp [hgreater, hlt]
    . simp [hless, hequals, hlt.not_gt, hlt.ne']
  . refine ⟨equals, ?_, ?_⟩
    . simp [hequals, heq]
    . simp [hgreater, hless, heq]
  . refine ⟨compares .less, ?_, ?_⟩
    . simp [hless, hgt]
    . simp [hgreater, hequals, hgt.not_gt, hgt.ne]

theorem AllCompare.accepts_weak (h : AllCompare bound compares equals)
    (hitem : item.amount? = some x) (hbound : bound.amount? = some b)
    {weak strict opposite : OrderRelation} (hnot : weak.Compares b x ↔ ¬opposite.Compares b x)
    (hor : weak.Compares b x ↔ strict.Compares b x ∨ x = b) :
    (compares weak).accepts item = (Predicate.not (compares opposite)).accepts item ∧
      (compares weak).accepts item = (anyOf [compares strict, equals]).accepts item := by
  have hweak := accepts_order (h.order weak) hitem hbound
  have hopposite := accepts_order (h.order opposite) hitem hbound
  have hstrict := accepts_order (h.order strict) hitem hbound
  have hequals := accepts_equality h.equality hitem hbound
  rw [accepts_not, hopposite, accepts_anyOf_pair hstrict hequals, hweak]
  constructor
  . rw [decide_eq_decide.mpr hnot, decide_not]
    rfl
  . rw [decide_eq_decide.mpr hor, Bool.decide_or]

theorem accepts_less_trans {below : Predicate} {c : Value} (h : order .less bound = .ok p)
    (hbelow : order .less c = .ok below) (hitem : p.accepts item = .ok true)
    (hbound : below.accepts bound = .ok true) : below.accepts item = .ok true := by
  obtain ⟨x, b, hx, hb, hlt⟩ := exists_amounts_of_accepts h hitem
  obtain ⟨b', y, hb', hy, hlt'⟩ := exists_amounts_of_accepts hbelow hbound
  rw [hb, Option.some.injEq] at hb'
  subst hb'
  rw [accepts_order hbelow hx hy, Except.ok.injEq, decide_eq_true_eq]
  apply lt_trans hlt hlt'

theorem accepts_less_asymm (h : order .less bound = .ok p) (hitem : p.accepts item = .ok true) :
    ∃ below, order .less item = .ok below ∧ below.accepts bound = .ok false := by
  obtain ⟨x, b, hx, hb, hlt⟩ := exists_amounts_of_accepts h hitem
  obtain ⟨below, hbelow⟩ := exists_order_of_amount hx .less
  refine ⟨below, hbelow, ?_⟩
  rw [accepts_order hbelow hb hx, Except.ok.injEq, decide_eq_false_iff_not]
  apply lt_asymm hlt

theorem exists_allCompare (h : order relation bound = .ok p) :
    ∃ compares equals, AllCompare bound compares equals := by
  obtain ⟨n, hn, -⟩ := exists_number_of_order h
  refine ⟨fun relation => .ordered relation n, .equalTo bound, ?_, ?_⟩
  . intro relation
    rw [order, hn]
  . cases bound with
    | null => contradiction
    | _ => rfl

theorem order_exact (h : order relation bound = .ok p) :
    ∃ compares equals, AllCompare bound compares equals ∧ ∀ item : Value,
      (item.number? = none ∨ item = .double .nan ∨ bound = .double .nan →
        ∀ relation, (compares relation).accepts item = .ok false) ∧
      (item.number? ≠ none → item ≠ .double .nan → bound ≠ .double .nan →
        (∃ x b, item.amount? = some x ∧ bound.amount? = some b ∧
          ∀ relation, (compares relation).accepts item = .ok (decide (relation.Compares b x))) ∧
        (∃! p, p ∈ [compares .greater, compares .less, equals] ∧ p.accepts item = .ok true) ∧
        ((compares .greaterOrEqual).accepts item = (Predicate.not (compares .less)).accepts item ∧
          (compares .greaterOrEqual).accepts item =
            (anyOf [compares .greater, equals]).accepts item) ∧
        ((compares .lessOrEqual).accepts item =
            (Predicate.not (compares .greater)).accepts item ∧
          (compares .lessOrEqual).accepts item =
            (anyOf [compares .less, equals]).accepts item)) ∧
      (∀ c below, order .less c = .ok below → (compares .less).accepts item = .ok true →
        below.accepts bound = .ok true → below.accepts item = .ok true) ∧
      ((compares .less).accepts item = .ok true →
        ∃ below, order .less item = .ok below ∧ below.accepts bound = .ok false) := by
  obtain ⟨compares, equals, hall⟩ := exists_allCompare h
  obtain ⟨n, hn, -⟩ := exists_number_of_order h
  refine ⟨compares, equals, hall, ?_⟩
  intro item
  refine ⟨?_, ?_, ?_, ?_⟩
  . intro hnone relation
    apply accepts_order_of_no_amount (hall.order relation)
    rw [Value.amount?_eq_none_iff, Value.amount?_eq_none_iff, or_assoc]
    exact hnone.imp_right (Or.imp_right .inr)
  . intro hitem hreal hbound
    have hx : item.amount? ≠ none := by simp [Value.amount?_eq_none_iff, hitem, hreal]
    have hb : bound.amount? ≠ none := by simp [Value.amount?_eq_none_iff, hn, hbound]
    obtain ⟨x, hx⟩ := Option.ne_none_iff_exists'.mp hx
    obtain ⟨b, hb⟩ := Option.ne_none_iff_exists'.mp hb
    refine ⟨⟨x, b, hx, hb, fun relation => accepts_order (hall.order relation) hx hb⟩, ?_, ?_, ?_⟩
    . apply hall.existsUnique_accepts hx hb
    . apply hall.accepts_weak hx hb
      . apply not_lt.symm
      . rw [eq_comm]
        apply le_iff_lt_or_eq
    . apply hall.accepts_weak hx hb
      . apply not_lt.symm
      . apply le_iff_lt_or_eq
  . intro c below hbelow
    apply accepts_less_trans (hall.order .less) hbelow
  . apply accepts_less_asymm (hall.order .less)

def oddBound : Value :=
  .int (2 ^ 53 + 1)

theorem order_exact_oddBound :
    order .less oddBound = .ok (.ordered .less (.int (2 ^ 53 + 1))) ∧
      (Value.double (.ofInt (2 ^ 53 + 1))).number? ≠ none ∧
      Value.double (.ofInt (2 ^ 53 + 1)) ≠ .double .nan ∧ oddBound ≠ .double .nan ∧
      ∃ compares equals, AllCompare oddBound compares equals ∧
        (∃! p, p ∈ [compares .greater, compares .less, equals] ∧
          p.accepts (.double (.ofInt (2 ^ 53 + 1))) = .ok true) ∧
        (compares .less).accepts (.double (.ofInt (2 ^ 53 + 1))) = .ok true ∧
        ∃ below, order .less (.double (.ofInt (2 ^ 53 + 1))) = .ok below ∧
          below.accepts oddBound = .ok false := by
  have hbound : order .less oddBound = .ok (.ordered .less (.int (2 ^ 53 + 1))) := rfl
  have hitem : (Value.double (.ofInt (2 ^ 53 + 1))).number? ≠ none := nofun
  have hreal : Value.double (.ofInt (2 ^ 53 + 1)) ≠ .double .nan := by
    rw [Ne, Value.double.injEq]
    decide +kernel
  have hplace : oddBound ≠ .double .nan := nofun
  obtain ⟨compares, equals, hall, hlaws⟩ := order_exact hbound
  obtain ⟨-, hcomparable, -, hasymm⟩ := hlaws (.double (.ofInt (2 ^ 53 + 1)))
  obtain ⟨-, hunique, -⟩ := hcomparable hitem hreal hplace
  have hless : (compares .less).accepts (.double (.ofInt (2 ^ 53 + 1))) = .ok true := by
    have hsame := hall.order .less
    rw [hbound, Except.ok.injEq] at hsame
    rw [← hsame]
    decide +kernel
  exact ⟨hbound, hitem, hreal, hplace, compares, equals, hall, hunique, hless, hasymm hless⟩

end Predicate

end MetricCheck
