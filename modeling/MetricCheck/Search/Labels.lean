import MetricCheck.Predicate.Acceptance
import MetricCheck.Request
import MetricCheck.Search.Report

/-!
This module contains the check of a sample's labels against the rules of a request. Every label is
checked against every rule, label by label and for each label rule by rule.
-/

namespace MetricCheck

inductive LabelVerdict where
  | unrelated
  | fitting
  | wrong
  deriving DecidableEq

def LabelRule.judge (rule : LabelRule) (name value : Value) : Except Fault LabelVerdict := do
  if ← rule.name.accepts name then
    if ← rule.value.accepts value then return .fitting else return .wrong
  else return .unrelated

/--
The state of a check: each rule with a mark if no label name has fitted it so far, and the labels
with a wrong value.
-/
structure LabelCheck where
  rules : List (LabelRule × Bool)
  mismatches : List LabelMismatch

namespace LabelCheck

def start (rules : List LabelRule) : LabelCheck :=
  ⟨rules.map fun rule => (rule, true), []⟩

def judgeLabel (name value : Value) :
    List (LabelRule × Bool) → Except Fault (List (LabelRule × Bool) × List LabelMismatch)
  | [] => .ok ([], [])
  | (rule, missing) :: rest => do
    let verdict ← rule.judge name value
    let (rules, mismatches) ← judgeLabel name value rest
    return match verdict with
      | .unrelated => ((rule, missing) :: rules, mismatches)
      | .fitting => ((rule, false) :: rules, mismatches)
      | .wrong => ((rule, false) :: rules, ⟨rule.name, rule.value, value⟩ :: mismatches)

def judgeLabels (check : LabelCheck) : List (Value × Value) → Except Fault LabelCheck
  | [] => .ok check
  | (name, value) :: rest => do
    let (rules, mismatches) ← judgeLabel name value check.rules
    judgeLabels ⟨rules, check.mismatches ++ mismatches⟩ rest

def record (check : LabelCheck) : LabelRecord where
  labels := []
  missing := (check.rules.filter Prod.snd).map fun entry => entry.1.name
  mismatches := check.mismatches

end LabelCheck

def checkLabels (rules : List LabelRule) (labels : List (Value × Value)) :
    Except Fault LabelRecord := do
  return (← (LabelCheck.start rules).judgeLabels labels).record

end MetricCheck
