import MetricCheck.Predicate.Basic
import MetricCheck.Proofs.Explanation.Complete
import MetricCheck.Proofs.Predicate.Tree

/-!
This module contains the predicates that never fail on a sample: they describe themselves, and they
decide every text and every binary64 number. All predicates are of this kind that come out of the
constructors, as long as their operands do, equality is with texts, bytes, truth values, numbers and
rows of these, and no integer in them is too long to be written.
-/

namespace MetricCheck

inductive Value.IsPlain : Value → Prop
  | text (s : String) : IsPlain (.text s)
  | bytes (bs : List UInt8) : IsPlain (.bytes bs)
  | bool (b : Bool) : IsPlain (.bool b)
  | double (d : Double) : IsPlain (.double d)
  | int {n : Int} : Number.IsShort n → IsPlain (.int n)
  | list {items : List Value} : (∀ v ∈ items, IsPlain v) → IsPlain (.list items)
  | tuple {items : List Value} : (∀ v ∈ items, IsPlain v) → IsPlain (.tuple items)

namespace Predicate

/--
The predicates that come out of the constructors of predicates, given plain values and predicates
that come out of them themselves.
-/
inductive IsBuilt : Predicate → Prop
  | anything : IsBuilt .anything
  | equality {expected : Value} {p : Predicate} : expected.IsPlain → equality expected = .ok p →
      IsBuilt p
  | text {relation : TextRelation} {part : Value} {p : Predicate} : relation ≠ .unspecified →
      text relation part = .ok p → IsBuilt p
  | closeness {target tolerance : Value} {p : Predicate} : closeness target tolerance = .ok p →
      IsBuilt p
  | order {relation : OrderRelation} {bound : Value} {p : Predicate} : bound.IsPlain →
      order relation bound = .ok p → IsBuilt p
  | not {operand : Predicate} : IsBuilt operand → IsBuilt (.not operand)
  | allOf {operands : List Predicate} : (∀ p ∈ operands, IsBuilt p) → IsBuilt (.allOf operands)
  | anyOf {operands : List Predicate} : (∀ p ∈ operands, IsBuilt p) → IsBuilt (.anyOf operands)
  | both {i j : Nat} {p q both : Predicate} : IsBuilt p → IsBuilt q →
      Value.both (.predicate i p) (.predicate j q) = .ok both → IsBuilt both
  | either {i j : Nat} {p q either : Predicate} : IsBuilt p → IsBuilt q →
      Value.either (.predicate i p) (.predicate j q) = .ok either → IsBuilt either
  | opposite {i : Nat} {p opposite : Predicate} : IsBuilt p →
      Value.opposite (.predicate i p) = .ok opposite → IsBuilt opposite

structure IsTotal (p : Predicate) : Prop where
  describes : p.describe.fault? = none
  decidesText : ∀ s, p.Decides (.text s)
  decidesDouble : ∀ d, p.Decides (.double d)

end Predicate

namespace Value

variable {v : Value} {items : List Value}

theorem exists_displayAll (h : ∀ v ∈ items, ∃ s, v.display = .ok s) :
    ∃ shown, displayAll items = .ok shown := by
  induction items with
  | nil => exact ⟨[], rfl⟩
  | cons v rest ih =>
    rw [List.forall_mem_cons] at h
    obtain ⟨s, hs⟩ := h.1
    obtain ⟨shown, hshown⟩ := ih h.2
    refine ⟨s :: shown, ?_⟩
    rw [displayAll, hs, hshown]
    rfl

theorem IsPlain.exists_display (h : v.IsPlain) : ∃ s, v.display = .ok s := by
  induction h with
  | text | bytes | bool | double => exact ⟨_, rfl⟩
  | int hshort => exact ⟨_, Number.writeInt_of_isShort hshort⟩
  | list _ ih =>
    obtain ⟨shown, hshown⟩ := exists_displayAll ih
    exact ⟨joinShown "[" shown "]", by rw [display, hshown]; rfl⟩
  | tuple _ ih =>
    obtain ⟨shown, hshown⟩ := exists_displayAll ih
    exact ⟨showTuple shown, by rw [display, hshown]; rfl⟩

theorem IsPlain.shows (h : v.IsPlain) : v.Shows := by
  cases h with
  | text s => exact ⟨s, rfl⟩
  | bytes | bool | double => exact ⟨_, rfl⟩
  | int hshort => exact IsPlain.exists_display (.int hshort)
  | list hitems => exact IsPlain.exists_display (.list hitems)
  | tuple hitems => exact IsPlain.exists_display (.tuple hitems)

end Value

namespace Predicate

variable {p : Predicate} {operands : List Predicate}

theorem isTotal_of_decides (hdescribes : p.describe.fault? = none) (hdecides : ∀ v, p.Decides v) :
    p.IsTotal :=
  ⟨hdescribes, fun s => hdecides (.text s), fun d => hdecides (.double d)⟩

theorem isTotal_equalTo {expected : Value} (h : expected.IsPlain) : (equalTo expected).IsTotal :=
  isTotal_of_decides h.shows.fault?_render fun _ => ⟨_, rfl⟩

theorem isTotal_closeTo (target tolerance : Double) : (closeTo target tolerance).IsTotal where
  describes := rfl
  decidesText _ := ⟨false, rfl⟩
  decidesDouble _ := ⟨_, rfl⟩

theorem isTotal_ordered (relation : OrderRelation) {bound : Number} {s : String}
    (hwrite : bound.write = .ok s) : (ordered relation bound).IsTotal := by
  apply isTotal_of_decides _ (decides_ordered relation bound)
  rw [describe, hwrite]
  rfl

theorem IsTotal.not (h : p.IsTotal) : (Predicate.not p).IsTotal where
  describes := by simpa [describe_not] using h.describes
  decidesText s := (h.decidesText s).not
  decidesDouble d := (h.decidesDouble d).not

theorem isTotal_allOf (h : ∀ p ∈ operands, p.IsTotal) : (allOf operands).IsTotal where
  describes := by
    rw [describe_allOf, Rendering.fault?_enclosed, List.forall_mem_map]
    exact fun p hp => (h p hp).describes
  decidesText s := exists_allAccept fun p hp => (h p hp).decidesText s
  decidesDouble d := exists_allAccept fun p hp => (h p hp).decidesDouble d

theorem isTotal_anyOf (h : ∀ p ∈ operands, p.IsTotal) : (anyOf operands).IsTotal where
  describes := by
    rw [describe_anyOf, Rendering.fault?_enclosed, List.forall_mem_map]
    exact fun p hp => (h p hp).describes
  decidesText s := exists_anyAccepts fun p hp => (h p hp).decidesText s
  decidesDouble d := exists_anyAccepts fun p hp => (h p hp).decidesDouble d

theorem isTotal_of_equality {expected : Value} (hplain : expected.IsPlain)
    (h : equality expected = .ok p) : p.IsTotal := by
  unfold equality at h
  split at h
  . contradiction
  . cases h
    exact isTotal_equalTo hplain

theorem isTotal_of_text {relation : TextRelation} {part : Value}
    (hrelation : relation ≠ .unspecified) (h : text relation part = .ok p) : p.IsTotal := by
  unfold text at h
  split at h
  . cases h
    exact isTotal_of_decides rfl (decides_textual hrelation _)
  . contradiction

theorem isTotal_of_closeness {target tolerance : Value} (h : closeness target tolerance = .ok p) :
    p.IsTotal := by
  unfold closeness at h
  split at h
  . split at h
    . obtain ⟨text, -, hrefused⟩ := Except.of_bind_eq_ok h
      contradiction
    . split at h
      . cases h
        exact isTotal_closeTo _ _
      . contradiction
  . contradiction

theorem isTotal_of_order {relation : OrderRelation} {bound : Value} (hplain : bound.IsPlain)
    (h : order relation bound = .ok p) : p.IsTotal := by
  cases hplain with
  | int hshort =>
    cases h
    exact isTotal_ordered relation (Number.writeInt_of_isShort hshort)
  | double d =>
    cases h
    exact isTotal_ordered relation rfl
  | _ => contradiction

theorem IsBuilt.isTotal (h : p.IsBuilt) : p.IsTotal := by
  induction h with
  | anything => exact isTotal_of_decides rfl fun _ => ⟨true, rfl⟩
  | equality hplain h => exact isTotal_of_equality hplain h
  | text hrelation h => exact isTotal_of_text hrelation h
  | closeness h => exact isTotal_of_closeness h
  | order hplain h => exact isTotal_of_order hplain h
  | not _ ih => exact ih.not
  | allOf _ ih => exact isTotal_allOf ih
  | anyOf _ ih => exact isTotal_anyOf ih
  | both _ _ h ihp ihq =>
    cases h
    exact isTotal_allOf (by simp [ihp, ihq, ofValue])
  | either _ _ h ihp ihq =>
    cases h
    exact isTotal_anyOf (by simp [ihp, ihq, ofValue])
  | opposite _ h ih =>
    cases h
    exact ih.not

theorem IsTree.isTotal (h : p.IsTree) (hdescribes : p.describe.fault? = none) : p.IsTotal :=
  isTotal_of_decides hdescribes h.decides

end Predicate

end MetricCheck
