import MetricCheck.Proofs.Number.Amount
import MetricCheck.Proofs.Request.Narrowing

/-!
This module contains what a tolerance accepts. The distance of two numbers is the same both ways,
and a larger tolerance accepts more. A number has the distance zero to itself, so a tolerance
accepts its own target; only an infinity has no distance to itself, and neither has `nan`.
-/

namespace MetricCheck

namespace Double

variable {d target tolerance : Double}

theorem exists_finite_ofInt {k : Int} (h : ∀ negative, ofInt k ≠ .infinite negative) :
    ∃ negative magnitude, ofInt k = .finite negative magnitude := by
  unfold ofInt ofQuotient at *
  split
  . exact ⟨_, _, rfl⟩
  . next hlarge =>
    simp only [hlarge, ↓reduceDIte] at h
    exact absurd rfl (h _)

theorem not_less_zero_ofQuotient (num den : Nat) :
    Number.less (.double (ofQuotient false num den)) (.int 0) = false := by
  unfold ofQuotient
  split
  . simp [Number.less, Number.place?, Number.Place.before, signedQuanta]
  . rfl

theorem distance_self_of_finite (negative : Bool) (magnitude : Magnitude) :
    distance (.finite negative magnitude) (.finite negative magnitude) = zero := by
  simp [distance, zero, ofInt]

theorem distance_self (h : ∀ negative magnitude, d ≠ .finite negative magnitude) :
    distance d d = nan := by
  cases d with
  | nan => rfl
  | infinite negative => simp [distance]
  | finite negative magnitude => exact absurd rfl (h negative magnitude)

theorem isWithin_of_amounts {x y : WithBot (WithTop ℚ)}
    (hdistance : (Number.double (d.distance target)).amount? = some x)
    (htolerance : (Number.double tolerance).amount? = some y) :
    isWithin target tolerance d = decide (x ≤ y) :=
  OrderRelation.holds_eq .lessOrEqual hdistance htolerance

theorem isWithin_of_no_amount (h : (Number.double (d.distance target)).amount? = none ∨
    (Number.double tolerance).amount? = none) : isWithin target tolerance d = false :=
  OrderRelation.holds_eq_false .lessOrEqual h

theorem amount?_zero : (Number.double zero).amount? = (Number.int 0).amount? := by
  decide +kernel

theorem isWithin_self (negative : Bool) (magnitude : Magnitude) (hreal : tolerance ≠ .nan)
    (hsign : Number.less (.double tolerance) (.int 0) = false) :
    isWithin (.finite negative magnitude) tolerance (.finite negative magnitude) = true := by
  have hdistance := distance_self_of_finite negative magnitude
  cases hamount : (Number.double tolerance).amount? with
  | none =>
    cases tolerance with
    | nan => contradiction
    | infinite negative => contradiction
    | finite negative magnitude => contradiction
  | some y =>
    have hzero : (Number.int 0).amount? = some ((0 : Int) : ℚ) := rfl
    rw [isWithin_of_amounts (hdistance ▸ amount?_zero.trans hzero) hamount, decide_eq_true_eq]
    rwa [Number.less_eq_false_iff hamount hzero] at hsign

theorem isWithin_self_iff (hsign : Number.less (.double tolerance) (.int 0) = false) :
    isWithin d tolerance d = true ↔ (∃ negative magnitude, d = .finite negative magnitude) ∧
      tolerance ≠ .nan := by
  constructor
  . intro hwithin
    constructor
    . by_contra hunbounded
      rw [isWithin_of_no_amount (.inl _)] at hwithin
      . contradiction
      . rw [distance_self (by simpa using hunbounded)]
        rfl
    . intro hnan
      subst hnan
      rw [isWithin_of_no_amount (.inr rfl)] at hwithin
      contradiction
  . intro ⟨⟨negative, magnitude, hfinite⟩, hreal⟩
    rw [hfinite]
    apply isWithin_self negative magnitude hreal hsign

theorem isWithin_comm (a b tolerance : Double) :
    isWithin a tolerance b = isWithin b tolerance a := by
  rw [isWithin, isWithin, distance_comm]

theorem isWithin_of_wider {wider : Double}
    (hwider : OrderRelation.lessOrEqual.holds (.double wider) (.double tolerance) = true)
    (h : isWithin target tolerance d = true) : isWithin target wider d = true :=
  OrderRelation.holds_lessOrEqual_trans h hwider

theorem not_less_zero_of_wider {wider : Double}
    (hwider : OrderRelation.lessOrEqual.holds (.double wider) (.double tolerance) = true)
    (hsign : Number.less (.double tolerance) (.int 0) = false) :
    Number.less (.double wider) (.int 0) = false := by
  obtain ⟨x, y, hx, hy, hle⟩ := OrderRelation.exists_amounts_of_holds hwider
  rw [Number.less_eq_false_iff hx rfl] at hsign
  rw [Number.less_eq_false_iff hy rfl]
  apply le_trans hsign hle

end Double

namespace Number

variable {n : Number} {d : Double}

-- The conversion of integers becomes a variable first, or its exact arithmetic would be evaluated.
theorem toDouble?_cases (h : n.toDouble? = some d) :
    n = .double d ∨
      ∃ k, n = .int k ∧ d = .ofInt k ∧ ∃ negative magnitude, d = .finite negative magnitude := by
  obtain ⟨round, hround⟩ : ∃ round, round = Double.ofInt := ⟨_, rfl⟩
  have hfinite := @Double.exists_finite_ofInt
  unfold toDouble? at h
  rw [← hround] at h hfinite ⊢
  split at h
  . cases h
    exact .inl rfl
  . next k =>
    refine .inr ⟨k, rfl, ?_⟩
    split at h
    . contradiction
    . next hbounded =>
      cases h
      exact ⟨rfl, hfinite hbounded⟩

theorem not_less_zero_of_toDouble (h : n.toDouble? = some d) (hsign : n.less (.int 0) = false) :
    less (.double d) (.int 0) = false := by
  cases toDouble?_cases h with
  | inl hdouble => rwa [hdouble] at hsign
  | inr hint =>
    obtain ⟨k, rfl, rfl, -⟩ := hint
    have hk : ¬k < 0 := by
      rw [less_eq_false_iff rfl rfl] at hsign
      simpa using hsign
    rw [Double.ofInt, decide_eq_false hk]
    apply Double.not_less_zero_ofQuotient

end Number

def Value.IsBounded (v : Value) : Prop :=
  v ≠ .double .nan ∧ ∀ negative, v ≠ .double (.infinite negative)

namespace Value

variable {v : Value} {n : Number} {d : Double}

theorem finite_iff_isBounded (hn : v.number? = some n) (hd : n.toDouble? = some d) :
    (∃ negative magnitude, d = .finite negative magnitude) ↔ v.IsBounded := by
  cases Number.toDouble?_cases hd with
  | inl hdouble =>
    subst hdouble
    cases v <;> cases hn
    cases d <;> simp [IsBounded]
  | inr hint =>
    obtain ⟨k, rfl, -, hfinite⟩ := hint
    cases v <;> cases hn
    simp [IsBounded, hfinite]

theorem nan_iff (hn : v.number? = some n) (hd : n.toDouble? = some d) :
    d = .nan ↔ v = .double .nan := by
  cases Number.toDouble?_cases hd with
  | inl hdouble =>
    subst hdouble
    cases v <;> cases hn
    rw [double.injEq]
  | inr hint =>
    obtain ⟨k, rfl, -, negative, magnitude, rfl⟩ := hint
    cases v <;> cases hn
    simp

end Value

namespace Predicate

def DecidesTarget (p : Predicate) (target : Value) : Prop :=
  ∃ accepted, p.accepts target = .ok accepted ∧ (accepted = true ↔ target.IsBounded)

variable {target tolerance v : Value} {p : Predicate}

theorem exists_numbers_of_closeness (h : closeness target tolerance = .ok p) :
    ∃ t e d width, target.number? = some t ∧ tolerance.number? = some e ∧
      e.less (.int 0) = false ∧ t.toDouble? = some d ∧ e.toDouble? = some width ∧
      p = .closeTo d width := by
  unfold closeness at h
  split at h
  . next t e ht he =>
    split at h
    . obtain ⟨text, -, hrefused⟩ := Except.of_bind_eq_ok h
      contradiction
    . next hsign =>
      split at h
      . next d width hd hwidth =>
        cases h
        exact ⟨t, e, d, width, ht, he, by simpa using hsign, hd, hwidth, rfl⟩
      . contradiction
  . contradiction

theorem decidesTarget_of_closeness (h : closeness target tolerance = .ok p)
    (hreal : tolerance ≠ .double .nan) : p.DecidesTarget target := by
  obtain ⟨t, e, d, width, ht, he, hsign, hd, hwidth, rfl⟩ := exists_numbers_of_closeness h
  refine ⟨Double.isWithin d width d, ?_, ?_⟩
  . rw [accepts, ht]
    dsimp only
    rw [hd]
  . rw [Double.isWithin_self_iff (Number.not_less_zero_of_toDouble hwidth hsign),
      Value.finite_iff_isBounded ht hd, Ne, Value.nan_iff he hwidth, and_iff_left hreal]

theorem closeness_of_conversion {n : Number} {d : Double} (hn : target.number? = some n)
    (hd : n.toDouble? = some d) : closeness (.double d) tolerance = closeness target tolerance := by
  have hdouble : (Value.double d).number? = some (.double d) := rfl
  have hsame : (Number.double d).toDouble? = some d := rfl
  unfold closeness
  rw [hn, hdouble]
  cases tolerance.number? with
  | none => rfl
  | some e =>
    dsimp only
    rw [hd, hsame]

theorem closeness_of_doubles {d width : Double}
    (h : closeness (.double d) (.double width) = .ok p) :
    Number.less (.double width) (.int 0) = false ∧ p = .closeTo d width := by
  obtain ⟨t, e, d', width', ht, he, hsign, hd, hwidth, hp⟩ := exists_numbers_of_closeness h
  cases ht
  cases he
  cases hd
  cases hwidth
  exact ⟨hsign, hp⟩

end Predicate

namespace Request

open Predicate (closeness)

variable {r r' : Request} {target tolerance : Value}

theorem exists_closeness_of_value (hnumber : target.number? ≠ none)
    (h : (Request.value target tolerance).run r = .ok () r') :
    ∃ p, closeness target tolerance = .ok p ∧ r' = { r with valueRule := some p } := by
  obtain ⟨n, hn⟩ := Option.ne_none_iff_exists'.mp hnumber
  by_cases htolerance : tolerance = .null
  . subst htolerance
    have hfails := run_narrow_of_fails (r := r) (.noTolerance hn)
    rw [narrow, h] at hfails
    contradiction
  . cases hclose : closeness target tolerance with
    | error fault =>
      rw [run_value_of_no_closeness hn htolerance hclose] at h
      contradiction
    | ok p =>
      rw [run_value_of_closeness hn htolerance hclose] at h
      cases h
      exact ⟨p, rfl, rfl⟩

theorem exists_closeness_of_wholeValue (hnumber : target.number? ≠ none)
    (h : (wholeValue target).run r = .ok () r') :
    ∃ p, closeness target (.double wholeTolerance) = .ok p ∧
      r' = { r with valueRule := some p } := by
  obtain ⟨n, hn⟩ := Option.ne_none_iff_exists'.mp hnumber
  cases hd : n.toDouble? with
  | none =>
    have hfails := run_narrow_of_fails (r := r) (.wholeTooLarge hn hd)
    rw [narrow, h] at hfails
    contradiction
  | some d =>
    rw [wholeValue_of_number hn hd] at h
    obtain ⟨p, hp, hr'⟩ := exists_closeness_of_value (by simp [Value.number?]) h
    rw [Predicate.closeness_of_conversion hn hd] at hp
    exact ⟨p, hp, hr'⟩

def DecidesTarget (r : Request) (target : Value) : Prop :=
  ∃ p, r.valueRule = some p ∧ p.DecidesTarget target

theorem wholeTolerance_ne_nan : Value.double wholeTolerance ≠ .double .nan := by
  rw [Ne, Value.double.injEq]
  decide +kernel

theorem decidesTarget_of_accepted :
    (∀ (target tolerance : Value) (p : Predicate), closeness target tolerance = .ok p →
      tolerance ≠ .double .nan → p.DecidesTarget target) ∧
    ∀ (r r' : Request) (target : Value), target.number? ≠ none →
      (∀ tolerance, (Request.value target tolerance).run r = .ok () r' →
        tolerance ≠ .double .nan → r'.DecidesTarget target) ∧
      ((wholeValue target).run r = .ok () r' → r'.DecidesTarget target) := by
  refine ⟨fun _ _ _ h hreal => Predicate.decidesTarget_of_closeness h hreal, ?_⟩
  intro r r' target hnumber
  constructor
  . intro tolerance h hreal
    obtain ⟨p, hp, rfl⟩ := exists_closeness_of_value hnumber h
    exact ⟨p, rfl, Predicate.decidesTarget_of_closeness hp hreal⟩
  . intro h
    obtain ⟨p, hp, rfl⟩ := exists_closeness_of_wholeValue hnumber h
    exact ⟨p, rfl, Predicate.decidesTarget_of_closeness hp wholeTolerance_ne_nan⟩

def roundedTarget : Value :=
  .int (2 ^ 53 + 1)

theorem decidesTarget_of_accepted_roundedTarget :
    ∃ p r', closeness roundedTarget (.int 0) = .ok p ∧ p.accepts roundedTarget = .ok true ∧
      roundedTarget.number? ≠ none ∧ (wholeValue roundedTarget).run default = .ok () r' ∧
      r'.DecidesTarget roundedTarget := by
  have hn : roundedTarget.number? = some (.int (2 ^ 53 + 1)) := rfl
  have hnumber : roundedTarget.number? ≠ none := nofun
  have hd : Number.toDouble? (.int (2 ^ 53 + 1)) = some (.ofInt (2 ^ 53 + 1)) := by decide +kernel
  have hzero : Number.toDouble? (.int 0) = some .zero := by decide +kernel
  have hclose : closeness roundedTarget (.int 0) = .ok (.closeTo (.ofInt (2 ^ 53 + 1)) .zero) :=
    Predicate.closeness_of_numbers hn rfl rfl hd hzero
  have hwhole : (wholeValue roundedTarget).run default =
      .ok () { (default : Request) with
        valueRule := some (.closeTo (.ofInt (2 ^ 53 + 1)) wholeTolerance) } := by
    rw [wholeValue_of_number hn hd, run_value_of_close rfl rfl not_negative_wholeTolerance rfl rfl]
  obtain ⟨hpredicate, hrequest⟩ := decidesTarget_of_accepted
  obtain ⟨accepted, haccepts, hiff⟩ := hpredicate _ _ _ hclose nofun
  refine ⟨_, _, hclose, ?_, hnumber, hwhole, (hrequest _ _ _ hnumber).2 hwhole⟩
  rw [haccepts, hiff.mpr ⟨nofun, nofun⟩]

theorem rejects_target_of_infinity :
    (∃ p, closeness (.double (.infinite false)) (.double (.ofInt 1)) = .ok p ∧
      p.accepts (.double (.infinite false)) = .ok false) ∧
    (∃ p, closeness (.double (.ofInt 1)) (.double .nan) = .ok p ∧
      p.accepts (.double (.ofInt 1)) = .ok false) ∧
    ∃ r' p, (wholeValue (.double (.infinite false))).run default = .ok () r' ∧
      r'.valueRule = some p ∧ p.accepts (.double (.infinite false)) = .ok false := by
  have hsign : Number.less (.double (.ofInt 1)) (.int 0) = false := by decide +kernel
  have hwhole : (wholeValue (.double (.infinite false))).run default =
      .ok () { (default : Request) with
        valueRule := some (.closeTo (.infinite false) wholeTolerance) } := by
    rw [wholeValue_of_number rfl rfl,
      run_value_of_close rfl rfl not_negative_wholeTolerance rfl rfl]
  refine ⟨⟨_, Predicate.closeness_of_numbers rfl rfl hsign rfl rfl, ?_⟩,
    ⟨_, Predicate.closeness_of_numbers rfl rfl rfl rfl rfl, ?_⟩, _, _, hwhole, rfl, ?_⟩
  . decide +kernel
  . decide +kernel
  . decide +kernel

end Request

end MetricCheck
