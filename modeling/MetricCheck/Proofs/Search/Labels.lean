import Mathlib.Data.List.Basic
import MetricCheck.Search.Labels

/-!
This module contains what a check of labels means: which rules a row of labels keeps, and that the
record of a check names exactly the rules without a label and the labels with a wrong value.
-/

namespace MetricCheck

def Predicate.Decides (p : Predicate) (v : Value) : Prop :=
  ∃ b, p.accepts v = .ok b

namespace LabelRule

def Concerns (rule : LabelRule) (label : Value × Value) : Prop :=
  rule.name.accepts label.1 = .ok true

def Allows (rule : LabelRule) (label : Value × Value) : Prop :=
  rule.value.accepts label.2 = .ok true

def KeptBy (rule : LabelRule) (labels : List (Value × Value)) : Prop :=
  (∃ label ∈ labels, rule.Concerns label) ∧
    ∀ label ∈ labels, rule.Concerns label → rule.Allows label

def Decides (rule : LabelRule) (label : Value × Value) : Prop :=
  rule.name.Decides label.1 ∧ (rule.Concerns label → rule.value.Decides label.2)

instance (rule : LabelRule) (label : Value × Value) : Decidable (rule.Concerns label) :=
  inferInstanceAs (Decidable (_ = _))

instance (rule : LabelRule) (label : Value × Value) : Decidable (rule.Allows label) :=
  inferInstanceAs (Decidable (_ = _))

instance (rule : LabelRule) (labels : List (Value × Value)) : Decidable (rule.KeptBy labels) :=
  inferInstanceAs (Decidable (_ ∧ _))

def missing (rules : List LabelRule) (labels : List (Value × Value)) : List Predicate :=
  (rules.filter fun rule => ∀ label ∈ labels, ¬rule.Concerns label).map LabelRule.name

def mismatchesAt (rules : List LabelRule) (label : Value × Value) : List LabelMismatch :=
  (rules.filter fun rule => rule.Concerns label ∧ ¬rule.Allows label).map fun rule =>
    ⟨rule.name, rule.value, label.2⟩

theorem judge_eq_of_decides {rule : LabelRule} {label : Value × Value} (h : rule.Decides label) :
    rule.judge label.1 label.2 =
      .ok (if rule.Concerns label then if rule.Allows label then .fitting else .wrong
        else .unrelated) := by
  obtain ⟨⟨named, hname⟩, hvalue⟩ := h
  cases named with
  | false => simp [judge, Concerns, hname, bind, Except.bind, pure, Except.pure]
  | true =>
    obtain ⟨allowed, hallowed⟩ := hvalue hname
    cases allowed <;>
      simp [judge, Concerns, Allows, hname, hallowed, bind, Except.bind, pure, Except.pure]

end LabelRule

namespace LabelCheck

def after (rules : List LabelRule) (seen : List (Value × Value)) : LabelCheck where
  rules := rules.map fun rule => (rule, decide (∀ label ∈ seen, ¬rule.Concerns label))
  mismatches := seen.flatMap (LabelRule.mismatchesAt rules)

theorem start_eq_after (rules : List LabelRule) : start rules = after rules [] := by
  simp [start, after]

-- One label: every rule that concerns it loses its mark, whatever was seen before.
theorem judgeLabel_after {rules : List LabelRule} {label : Value × Value}
    (seen : List (Value × Value)) (h : ∀ rule ∈ rules, rule.Decides label) :
    judgeLabel label.1 label.2 (after rules seen).rules =
      .ok ((after rules (seen ++ [label])).rules, LabelRule.mismatchesAt rules label) := by
  induction rules with
  | nil => rfl
  | cons rule rest ih =>
    have hrule := LabelRule.judge_eq_of_decides (h rule (by simp))
    specialize ih (fun other hother => h other (by simp [hother]))
    have hmark : (∀ other ∈ seen ++ [label], ¬rule.Concerns other) ↔
        (∀ other ∈ seen, ¬rule.Concerns other) ∧ ¬rule.Concerns label := by
      rw [List.forall_mem_append, List.forall_mem_singleton]
    simp only [after] at ih
    simp only [after, List.map_cons, judgeLabel, hrule, ih, hmark, bind, Except.bind, pure,
      Except.pure]
    by_cases hconcerns : rule.Concerns label
    . by_cases hallows : rule.Allows label
      . simp [hconcerns, hallows, LabelRule.mismatchesAt]
      . simp [hconcerns, hallows, LabelRule.mismatchesAt]
    . simp [hconcerns, LabelRule.mismatchesAt]

theorem judgeLabels_after {rules : List LabelRule} (seen labels : List (Value × Value))
    (h : ∀ label ∈ labels, ∀ rule ∈ rules, rule.Decides label) :
    judgeLabels (after rules seen) labels = .ok (after rules (seen ++ labels)) := by
  induction labels generalizing seen with
  | nil => simp [judgeLabels]
  | cons label rest ih =>
    have hlabel := judgeLabel_after seen (h label (by simp))
    specialize ih (seen ++ [label]) (fun other hother => h other (by simp [hother]))
    rw [judgeLabels, hlabel]
    simp only [bind, Except.bind]
    have hstep : (⟨(after rules (seen ++ [label])).rules,
        (after rules seen).mismatches ++ LabelRule.mismatchesAt rules label⟩ : LabelCheck) =
          after rules (seen ++ [label]) := by
      simp [after]
    rw [hstep, ih]
    simp

end LabelCheck

theorem checkLabels_eq {rules : List LabelRule} {labels : List (Value × Value)}
    (h : ∀ label ∈ labels, ∀ rule ∈ rules, rule.Decides label) :
    checkLabels rules labels =
      .ok ⟨[], LabelRule.missing rules labels, labels.flatMap (LabelRule.mismatchesAt rules)⟩ := by
  unfold checkLabels
  rw [LabelCheck.start_eq_after, LabelCheck.judgeLabels_after [] labels h]
  simp [LabelCheck.record, LabelCheck.after, LabelRule.missing, List.filter_map, Function.comp_def,
    bind, Except.bind, pure, Except.pure]

theorem LabelRecord.isFullMatch_iff (rules : List LabelRule) (labels : List (Value × Value)) :
    (⟨[], LabelRule.missing rules labels, labels.flatMap (LabelRule.mismatchesAt rules)⟩ :
      LabelRecord).isFullMatch = true ↔ ∀ rule ∈ rules, rule.KeptBy labels := by
  simp only [isFullMatch, LabelRule.missing, LabelRule.mismatchesAt, LabelRule.KeptBy,
    Bool.and_eq_true, List.isEmpty_iff, List.map_eq_nil_iff, List.filter_eq_nil_iff,
    List.flatMap_eq_nil_iff, decide_eq_true_eq]
  constructor
  . intro ⟨hmissing, hwrong⟩ rule hrule
    specialize hmissing rule hrule
    constructor
    . push Not at hmissing
      exact hmissing
    . intro label hlabel hconcerns
      by_contra hallows
      exact hwrong label hlabel rule hrule ⟨hconcerns, hallows⟩
  . intro hkept
    constructor
    . intro rule hrule hnone
      obtain ⟨label, hlabel, hconcerns⟩ := (hkept rule hrule).1
      exact hnone label hlabel hconcerns
    . intro label hlabel rule hrule ⟨hconcerns, hallows⟩
      exact hallows ((hkept rule hrule).2 label hlabel hconcerns)

end MetricCheck
